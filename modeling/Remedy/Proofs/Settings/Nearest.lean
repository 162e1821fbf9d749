import Remedy.Proofs.FileTree.Presence
import Remedy.Settings.File

/-!
# The settings file in use

A settings file is looked for in a directory, and then in one directory after the other above it. So
the nearest directory decides in which the system finds one of the names of settings files, and in
it the first of these names. An answer of the system that does not tell whether there is something
ends the search (`firstOf_eq_error_iff`). In a tree without links and permissions the only such
answer is that a path is too long, and then it is the answer to the first look.
-/

set_option autoImplicit false

namespace Remedy

open Text

/-! ## Upwards -/

namespace Path

/-- The way up from a place begins there and goes on from the directory that it lies in. -/
theorem upward_concat (place : Path) (name : String) :
    upward (place ++ [name]) = (place ++ [name]) :: upward place := by
  rw [upward, List.length_append, List.length_singleton, List.range_succ_eq_map, List.map_cons,
    List.map_map, Nat.sub_zero, List.take_of_length_le (by simp)]
  refine congrArg _ (List.map_congr_left fun steps member => ?_)
  have within : place.length - steps ≤ place.length := Nat.sub_le _ _
  rw [Function.comp_apply, Nat.succ_eq_add_one, Nat.add_sub_add_right,
    List.take_append_of_le_length within]

theorem mem_upward_iff {above place : Path} : above ∈ upward place ↔ above <+: place := by
  induction place using List.reverseRecOn with
  | nil => simp [upward]
  | append_singleton place name ih =>
    rw [upward_concat, List.mem_cons, ih, List.prefix_concat_iff]

end Path

namespace SettingsFile

variable {place : Path}

/-! ## Places that are looked at -/

def candidatePlaces (place : Path) : List Path :=
  (Path.upward place).flatMap fun above => names.map fun name => above ++ [name]

theorem candidates_eq (place : Path) :
    candidates place = (candidatePlaces place).map Path.spell := by
  simp only [candidates, candidatePlaces, List.map_flatMap, List.map_map, Function.comp_def]

theorem candidatePlaces_concat (place : Path) (last : String) :
    candidatePlaces (place ++ [last]) =
      names.map (fun name => place ++ [last] ++ [name]) ++ candidatePlaces place := by
  rw [candidatePlaces, Path.upward_concat, List.flatMap_cons]
  rfl

theorem mem_candidatePlaces_iff {candidate : Path} :
    candidate ∈ candidatePlaces place ↔
      ∃ above, above <+: place ∧ ∃ name ∈ names, candidate = above ++ [name] := by
  simp only [candidatePlaces, List.mem_flatMap, List.mem_map, Path.mem_upward_iff, eq_comm]

/-! ## The first that is not absent -/

/-- Something is come to in a list: all that stands before it is absent. -/
inductive Comes {α : Type} (absent : α → Prop) : List α → α → Prop where
  | here {a : α} {rest : List α} : Comes absent (a :: rest) a
  | later {a b : α} {rest : List α} (first : absent a) (comes : Comes absent rest b) :
      Comes absent (a :: rest) b

namespace Comes

variable {α β : Type} {absent : α → Prop}

theorem nil_iff {b : α} : Comes absent [] b ↔ False :=
  ⟨nofun, False.elim⟩

theorem cons_iff {a b : α} {rest : List α} :
    Comes absent (a :: rest) b ↔ b = a ∨ absent a ∧ Comes absent rest b := by
  constructor
  · intro comes
    cases comes with
    | here => exact Or.inl rfl
    | later first comes => exact Or.inr ⟨first, comes⟩
  · rintro (rfl | ⟨first, comes⟩)
    · exact .here
    · exact .later first comes

theorem append_iff {front back : List α} {b : α} :
    Comes absent (front ++ back) b ↔
      Comes absent front b ∨ (∀ a ∈ front, absent a) ∧ Comes absent back b := by
  induction front with
  | nil => simp [nil_iff]
  | cons a rest ih =>
    simp only [List.cons_append, cons_iff, ih, List.forall_mem_cons]
    tauto

theorem map_iff {f : β → α} {items : List β} {b : α} :
    Comes absent (items.map f) b ↔ ∃ item, b = f item ∧ Comes (absent ∘ f) items item := by
  induction items with
  | nil => simp [nil_iff]
  | cons item rest ih =>
    simp only [List.map_cons, cons_iff, ih, Function.comp_apply]
    constructor
    · rintro (rfl | ⟨first, other, rfl, comes⟩)
      · exact ⟨item, rfl, Or.inl rfl⟩
      · exact ⟨other, rfl, Or.inr ⟨first, comes⟩⟩
    · rintro ⟨other, rfl, rfl | ⟨first, comes⟩⟩
      · exact Or.inl rfl
      · exact Or.inr ⟨first, other, rfl, comes⟩

theorem congr {lacking : α → Prop} {items : List α} {b : α}
    (same : ∀ a ∈ items, absent a ↔ lacking a) :
    Comes absent items b ↔ Comes lacking items b := by
  induction items with
  | nil => simp only [nil_iff]
  | cons a rest ih =>
    obtain ⟨first, later⟩ := List.forall_mem_cons.mp same
    simp only [cons_iff, first, ih later]

theorem mem {items : List α} {b : α} (comes : Comes absent items b) : b ∈ items := by
  induction comes with
  | here => exact List.mem_cons_self ..
  | later _ _ ih => exact List.mem_cons_of_mem _ ih

end Comes

/-- The search for a place comes to a name in a directory at or above it: the nearer directories
have no settings file, and this one has none under the names before. -/
structure Reached (absent : Path → Prop) (place above : Path) (name : String) : Prop where
  upward : above <+: place
  nearer : ∀ other, other <+: place → ¬ other <+: above → ∀ n ∈ names, absent (other ++ [n])
  preferred : Comes (fun n => absent (above ++ [n])) names name

namespace Reached

variable {absent : Path → Prop} {above : Path} {name : String}

theorem nil_iff : Reached absent [] above name ↔
    above = [] ∧ Comes (fun n => absent ([] ++ [n])) names name := by
  constructor
  · intro reached
    obtain rfl := List.prefix_nil.mp reached.upward
    exact ⟨rfl, reached.preferred⟩
  · rintro ⟨rfl, preferred⟩
    exact ⟨List.prefix_rfl, fun other within beyond => absurd within beyond, preferred⟩

/-- A directory comes first, and those above it only if it has no settings file. -/
theorem concat_iff {last : String} : Reached absent (place ++ [last]) above name ↔
    (above = place ++ [last] ∧ Comes (fun n => absent (place ++ [last] ++ [n])) names name) ∨
      (∀ n ∈ names, absent (place ++ [last] ++ [n])) ∧ Reached absent place above name := by
  constructor
  · rintro ⟨upward, nearer, preferred⟩
    rcases List.prefix_concat_iff.mp upward with rfl | within
    · exact Or.inl ⟨rfl, preferred⟩
    · have beyond : ¬ place ++ [last] <+: above := by
        intro inside
        have shorter := (inside.trans within).length_le
        rw [List.length_append, List.length_singleton] at shorter
        omega
      exact Or.inr ⟨nearer _ List.prefix_rfl beyond, within,
        fun other inside => nearer other (inside.trans (List.prefix_append _ _)), preferred⟩
  · rintro (⟨rfl, preferred⟩ | ⟨nothing, upward, nearer, preferred⟩)
    · exact ⟨List.prefix_rfl, fun other within beyond => absurd within beyond, preferred⟩
    · refine ⟨upward.trans (List.prefix_append _ _), fun other within beyond => ?_, preferred⟩
      rcases List.prefix_concat_iff.mp within with rfl | deeper
      · exact nothing
      · exact nearer other deeper beyond

end Reached

theorem forall_candidatePlaces_iff {absent : Path → Prop} :
    (∀ candidate ∈ candidatePlaces place, absent candidate) ↔
      ∀ above, above <+: place → ∀ name ∈ names, absent (above ++ [name]) := by
  simp only [mem_candidatePlaces_iff]
  constructor
  · intro each above within name listed
    exact each _ ⟨above, within, name, listed, rfl⟩
  · rintro each candidate ⟨above, within, name, listed, rfl⟩
    exact each above within name listed

theorem comes_candidatePlaces_iff {absent : Path → Prop} {candidate : Path} :
    Comes absent (candidatePlaces place) candidate ↔
      ∃ above name, candidate = above ++ [name] ∧ Reached absent place above name := by
  induction place using List.reverseRecOn with
  | nil =>
    have whole : candidatePlaces [] = names.map fun name => [] ++ [name] := rfl
    simp only [whole, Comes.map_iff, Reached.nil_iff]
    constructor
    · rintro ⟨name, rfl, preferred⟩
      exact ⟨[], name, rfl, rfl, preferred⟩
    · rintro ⟨above, name, rfl, rfl, preferred⟩
      exact ⟨name, rfl, preferred⟩
  | append_singleton place last ih =>
    simp only [candidatePlaces_concat, Comes.append_iff, Comes.map_iff, List.forall_mem_map, ih,
      Reached.concat_iff]
    constructor
    · rintro (⟨name, rfl, preferred⟩ | ⟨nothing, above, name, rfl, reached⟩)
      · exact ⟨_, name, rfl, Or.inl ⟨rfl, preferred⟩⟩
      · exact ⟨above, name, rfl, Or.inr ⟨nothing, reached⟩⟩
    · rintro ⟨above, name, rfl, ⟨rfl, preferred⟩ | ⟨nothing, reached⟩⟩
      · exact Or.inl ⟨name, rfl, preferred⟩
      · exact Or.inr ⟨nothing, above, name, rfl, reached⟩

/-! ## The search -/

namespace Finder

variable {finder : Finder} {start : String} {places : List Path}

def Present (finder : Finder) (candidate : Path) : Prop :=
  finder.look (Path.spell candidate) = .ok ()

/-- The system tells that nothing is there, or nothing that a link leads to. -/
def Absent (finder : Finder) (candidate : Path) : Prop :=
  ∃ cause, finder.look (Path.spell candidate) = .error cause ∧ cause.isAbsence = true

def Fails (finder : Finder) (candidate : Path) (cause : SystemCause) : Prop :=
  finder.look (Path.spell candidate) = .error cause ∧ cause.isAbsence = false

theorem firstOf_cons (candidate : Path) (rest : List String) :
    (finder.Present candidate ∧
      finder.firstOf (Path.spell candidate :: rest) = .ok (some (Path.spell candidate))) ∨
    (finder.Absent candidate ∧
      finder.firstOf (Path.spell candidate :: rest) = finder.firstOf rest) ∨
    ∃ cause, finder.Fails candidate cause ∧
      finder.firstOf (Path.spell candidate :: rest) =
        .error (.at cause (Path.spell candidate)) := by
  rw [firstOf]
  cases answer : finder.look (Path.spell candidate) with
  | ok found => exact Or.inl ⟨answer, rfl⟩
  | error cause =>
    cases absent : cause.isAbsence with
    | true =>
      refine Or.inr (Or.inl ⟨⟨cause, answer, absent⟩, ?_⟩)
      simp only [SystemCause.presence, absent, if_true]
    | false =>
      refine Or.inr (Or.inr ⟨cause, ⟨answer, absent⟩, ?_⟩)
      simp only [SystemCause.presence, absent, Bool.false_eq_true, if_false]

theorem Present.not_absent {candidate : Path} (present : finder.Present candidate) :
    ¬ finder.Absent candidate := by
  rintro ⟨cause, answer, -⟩
  cases present.symm.trans answer

theorem Fails.not_absent {candidate : Path} {cause : SystemCause}
    (fails : finder.Fails candidate cause) : ¬ finder.Absent candidate := by
  rintro ⟨other, answer, absent⟩
  cases fails.1.symm.trans answer
  cases fails.2.symm.trans absent

theorem Fails.not_present {candidate : Path} {cause : SystemCause}
    (fails : finder.Fails candidate cause) : ¬ finder.Present candidate := by
  intro present
  cases fails.1.symm.trans present

theorem firstOf_of_comes {candidate : Path} (comes : Comes finder.Absent places candidate) :
    (finder.Present candidate →
      finder.firstOf (places.map Path.spell) = .ok (some (Path.spell candidate))) ∧
    ∀ cause, finder.Fails candidate cause →
      finder.firstOf (places.map Path.spell) = .error (.at cause (Path.spell candidate)) := by
  induction comes with
  | @here candidate rest =>
    obtain ⟨present, ended⟩ | ⟨absent, -⟩ | ⟨cause, fails, ended⟩ :=
      finder.firstOf_cons candidate (rest.map Path.spell)
    · exact ⟨fun _ => ended, fun cause fails => absurd present fails.not_present⟩
    · exact ⟨fun present => absurd absent present.not_absent,
        fun cause fails => absurd absent fails.not_absent⟩
    · refine ⟨fun present => absurd present fails.not_present, fun other failsToo => ?_⟩
      cases fails.1.symm.trans failsToo.1
      exact ended
  | @later first candidate rest absent _ ih =>
    obtain ⟨present, -⟩ | ⟨-, next⟩ | ⟨cause, fails, -⟩ :=
      finder.firstOf_cons first (rest.map Path.spell)
    · exact absurd absent present.not_absent
    · rwa [List.map_cons, next]
    · exact absurd absent fails.not_absent

theorem firstOf_of_absent (nothing : ∀ candidate ∈ places, finder.Absent candidate) :
    finder.firstOf (places.map Path.spell) = .ok none := by
  induction places with
  | nil => rfl
  | cons candidate rest ih =>
    obtain ⟨absent, later⟩ := List.forall_mem_cons.mp nothing
    obtain ⟨present, -⟩ | ⟨-, next⟩ | ⟨cause, fails, -⟩ :=
      finder.firstOf_cons candidate (rest.map Path.spell)
    · exact absurd absent present.not_absent
    · rw [List.map_cons, next, ih later]
    · exact absurd absent fails.not_absent

theorem firstOf_cases (finder : Finder) (places : List Path) :
    (∀ candidate ∈ places, finder.Absent candidate) ∨
      ∃ candidate, Comes finder.Absent places candidate ∧
        (finder.Present candidate ∨ ∃ cause, finder.Fails candidate cause) := by
  induction places with
  | nil => exact Or.inl (List.forall_mem_nil _)
  | cons candidate rest ih =>
    obtain ⟨present, -⟩ | ⟨absent, -⟩ | ⟨cause, fails, -⟩ := finder.firstOf_cons candidate []
    · exact Or.inr ⟨candidate, .here, Or.inl present⟩
    · refine ih.imp (fun later => List.forall_mem_cons.mpr ⟨absent, later⟩) ?_
      rintro ⟨other, comes, answered⟩
      exact ⟨other, .later absent comes, answered⟩
    · exact Or.inr ⟨candidate, .here, Or.inr ⟨cause, fails⟩⟩

theorem firstOf_eq_some_iff {path : String} :
    finder.firstOf (places.map Path.spell) = .ok (some path) ↔
      ∃ candidate, Comes finder.Absent places candidate ∧ finder.Present candidate ∧
        path = Path.spell candidate := by
  constructor
  · intro found
    obtain nothing | ⟨candidate, comes, present | ⟨cause, fails⟩⟩ := finder.firstOf_cases places
    · cases (firstOf_of_absent nothing).symm.trans found
    · cases ((firstOf_of_comes comes).1 present).symm.trans found
      exact ⟨candidate, comes, present, rfl⟩
    · cases ((firstOf_of_comes comes).2 cause fails).symm.trans found
  · rintro ⟨candidate, comes, present, rfl⟩
    exact (firstOf_of_comes comes).1 present

theorem firstOf_eq_none_iff :
    finder.firstOf (places.map Path.spell) = .ok none ↔
      ∀ candidate ∈ places, finder.Absent candidate := by
  refine ⟨fun found => ?_, firstOf_of_absent⟩
  obtain nothing | ⟨candidate, comes, present | ⟨cause, fails⟩⟩ := finder.firstOf_cases places
  · exact nothing
  · cases ((firstOf_of_comes comes).1 present).symm.trans found
  · cases ((firstOf_of_comes comes).2 cause fails).symm.trans found

theorem firstOf_eq_error_iff {error : SystemError} :
    finder.firstOf (places.map Path.spell) = .error error ↔
      ∃ candidate cause, Comes finder.Absent places candidate ∧ finder.Fails candidate cause ∧
        error = .at cause (Path.spell candidate) := by
  constructor
  · intro failed
    obtain nothing | ⟨candidate, comes, present | ⟨cause, fails⟩⟩ := finder.firstOf_cases places
    · cases (firstOf_of_absent nothing).symm.trans failed
    · cases ((firstOf_of_comes comes).1 present).symm.trans failed
    · cases ((firstOf_of_comes comes).2 cause fails).symm.trans failed
      exact ⟨candidate, cause, comes, fails, rfl⟩
  · rintro ⟨candidate, cause, comes, fails, rfl⟩
    exact (firstOf_of_comes comes).2 cause fails

theorem find_of_resolve_error {fault : Fault} (failed : finder.resolve start = .error fault) :
    finder.find start = .error fault := by
  simp only [find, failed]

section Resolved

variable {place : Path} (resolved : finder.resolve start = .ok place)

include resolved

theorem find_eq_ok_iff {answer : Option String} : finder.find start = .ok answer ↔
    finder.firstOf ((candidatePlaces place).map Path.spell) = .ok answer := by
  simp only [find, resolved, candidates_eq]
  cases finder.firstOf ((candidatePlaces place).map Path.spell) <;> simp [Except.mapError]

theorem find_eq_error_iff {fault : Fault} : finder.find start = .error fault ↔
    ∃ error, finder.firstOf ((candidatePlaces place).map Path.spell) = .error error ∧
      fault = .file (.system error) := by
  simp only [find, resolved, candidates_eq]
  cases finder.firstOf ((candidatePlaces place).map Path.spell) <;>
    simp [Except.mapError, eq_comm]

theorem find_eq_some_iff {path : String} : finder.find start = .ok (some path) ↔
    ∃ above name, path = Path.spell (above ++ [name]) ∧
      Reached finder.Absent place above name ∧ finder.Present (above ++ [name]) := by
  rw [find_eq_ok_iff resolved, firstOf_eq_some_iff]
  simp only [comes_candidatePlaces_iff]
  constructor
  · rintro ⟨candidate, ⟨above, name, rfl, reached⟩, present, rfl⟩
    exact ⟨above, name, rfl, reached, present⟩
  · rintro ⟨above, name, rfl, reached, present⟩
    exact ⟨_, ⟨above, name, rfl, reached⟩, present, rfl⟩

theorem find_eq_none_iff : finder.find start = .ok none ↔
    ∀ above, above <+: place → ∀ name ∈ names, finder.Absent (above ++ [name]) := by
  rw [find_eq_ok_iff resolved, firstOf_eq_none_iff, forall_candidatePlaces_iff]

theorem find_fails_iff {fault : Fault} : finder.find start = .error fault ↔
    ∃ above name cause, fault = .file (.system (.at cause (Path.spell (above ++ [name])))) ∧
      Reached finder.Absent place above name ∧ finder.Fails (above ++ [name]) cause := by
  rw [find_eq_error_iff resolved]
  simp only [firstOf_eq_error_iff, comes_candidatePlaces_iff]
  constructor
  · rintro ⟨error, ⟨candidate, cause, ⟨above, name, rfl, reached⟩, fails, rfl⟩, rfl⟩
    exact ⟨above, name, cause, rfl, reached, fails⟩
  · rintro ⟨above, name, cause, rfl, reached, fails⟩
    exact ⟨_, ⟨_, cause, ⟨above, name, rfl, reached⟩, fails, rfl⟩, rfl⟩

end Resolved

theorem present_iff {candidate : Path} : finder.Present candidate ↔
    SystemCause.presence (Path.spell candidate) (finder.look (Path.spell candidate)) =
      .ok true := by
  simp only [Present, SystemCause.presence]
  split
  · next answer => simp [answer]
  · next cause answer =>
    rw [answer]
    split <;> simp

theorem absent_iff {candidate : Path} : finder.Absent candidate ↔
    SystemCause.presence (Path.spell candidate) (finder.look (Path.spell candidate)) =
      .ok false := by
  simp only [Absent, SystemCause.presence]
  split
  · next answer => simp [answer]
  · next cause answer =>
    rw [answer]
    cases absent : cause.isAbsence <;> simp [absent]

end Finder

/-! ## Trees without links and permissions -/

section Trees

variable {tree : FileTree} {place : Path}

/-- The place of the settings file that is looked for first. -/
def firstCandidate (place : Path) : Path :=
  place ++ [".securityagent.yaml"]

theorem exists_candidatePlaces_eq (place : Path) :
    ∃ rest, candidatePlaces place = firstCandidate place :: rest := by
  induction place using List.reverseRecOn with
  | nil => exact ⟨_, rfl⟩
  | append_singleton place last _ =>
    rw [candidatePlaces, Path.upward_concat, List.flatMap_cons]
    exact ⟨_, rfl⟩

theorem firstCandidate_mem (place : Path) : firstCandidate place ∈ candidatePlaces place := by
  obtain ⟨rest, parts⟩ := exists_candidatePlaces_eq place
  exact parts ▸ List.mem_cons_self ..

/-- A failure of the first look ends the search. -/
theorem find_of_fails_first {finder : Finder} {start : String} {cause : SystemCause}
    (resolved : finder.resolve start = .ok place)
    (fails : finder.Fails (firstCandidate place) cause) :
    finder.find start =
      .error (.file (.system (.at cause (Path.spell (firstCandidate place))))) := by
  obtain ⟨rest, parts⟩ := exists_candidatePlaces_eq place
  have first : Comes finder.Absent (candidatePlaces place) (firstCandidate place) := parts ▸ .here
  exact (Finder.find_eq_error_iff resolved).mpr
    ⟨_, (Finder.firstOf_of_comes first).2 _ fails, rfl⟩

theorem nameable_names : Path.Nameable names := by
  decide

theorem length_encode_le {name : String} (listed : name ∈ names) :
    (Utf8.encode name).length ≤ (Utf8.encode ".securityagent.yaml").length := by
  revert listed name
  decide

theorem nameable_candidate (nameable : Path.Nameable place) {candidate : Path}
    (member : candidate ∈ candidatePlaces place) : Path.Nameable candidate := by
  obtain ⟨above, within, name, listed, rfl⟩ := mem_candidatePlaces_iff.mp member
  refine (nameable.of_prefix within).append fun step inLast => ?_
  rw [List.mem_singleton.mp inLast]
  exact nameable_names name listed

theorem candidate_ne_nil {candidate : Path} (member : candidate ∈ candidatePlaces place) :
    candidate ≠ [] := by
  obtain ⟨above, -, name, -, rfl⟩ := mem_candidatePlaces_iff.mp member
  simp

theorem not_refuses_candidate (goes : ¬ tree.Refuses (firstCandidate place)) {candidate : Path}
    (member : candidate ∈ candidatePlaces place) : ¬ tree.Refuses candidate := by
  obtain ⟨above, within, name, listed, rfl⟩ := mem_candidatePlaces_iff.mp member
  obtain ⟨near, short⟩ := not_or.mp goes
  rintro (far | ⟨front, long, back, parts, inside, beyond⟩)
  · exact near (Nat.lt_of_lt_of_le far
      (Path.length_encode_spell_le within (length_encode_le listed)))
  · rcases List.eq_nil_or_concat back with rfl | ⟨rest, last, rfl⟩
    · obtain ⟨-, same⟩ := List.append_inj' parts rfl
      rw [← List.cons.inj same |>.1] at beyond
      exact absurd (length_encode_le listed) (Nat.not_le_of_lt (Nat.lt_trans (by decide) beyond))
    · obtain ⟨rest', rfl⟩ := within
      rw [List.concat_eq_append, ← List.cons_append, ← List.append_assoc] at parts
      obtain ⟨rfl, -⟩ := List.append_inj' parts rfl
      refine short ⟨front, long, rest ++ rest' ++ [".securityagent.yaml"], ?_, inside, beyond⟩
      simp [firstCandidate]

/-- The settings file for a place: what the search comes to in a tree, and is there. -/
def Nearest (tree : FileTree) (place above : Path) (name : String) : Prop :=
  Reached (fun candidate => tree.find? candidate = none) place above name ∧
    tree.find? (above ++ [name]) ≠ none

variable {directory : Path} {start : String}

theorem resolve_ofTree (noNul : '\x00' ∉ start.toList) :
    (Finder.ofTree tree directory).resolve start = .ok (Path.denoted directory start) :=
  if_neg (by simpa using noNul)

theorem look_ofTree (spelling : String) :
    (Finder.ofTree tree directory).look spelling = tree.look directory spelling := rfl

theorem find_of_refuses (wellFormed : tree.WellFormed) (nameable : Path.Nameable directory)
    (noNul : '\x00' ∉ start.toList)
    (refuses : tree.Refuses (firstCandidate (Path.denoted directory start))) :
    find tree directory start = .error (.file (.system
      (.at .nameTooLong (Path.spell (firstCandidate (Path.denoted directory start)))))) := by
  have listed := firstCandidate_mem (Path.denoted directory start)
  have fails : (Finder.ofTree tree directory).Fails
      (firstCandidate (Path.denoted directory start)) .nameTooLong := by
    rw [Finder.Fails, look_ofTree]
    exact ⟨FileTree.look_of_refuses (candidate_ne_nil listed)
      (nameable_candidate (nameable.denoted noNul) listed) wellFormed refuses directory, rfl⟩
  exact find_of_fails_first (resolve_ofTree noNul) fails

/-- A start that is longer than a name may be ends the search in a directory that is there. -/
theorem find_of_long_name (wellFormed : tree.WellFormed) (nameable : Path.Nameable directory)
    {name : String} (named : Path.Nameable [name]) (held : tree.find? directory = some .directory)
    (long : FileTree.maxNameBytes < (Utf8.encode name).length) :
    find tree directory name = .error (.file (.system
      (.at .nameTooLong (Path.spell (firstCandidate (directory ++ [name])))))) := by
  have denoted : Path.denoted directory name = directory ++ [name] :=
    Path.denoted_name named directory
  have refuses : tree.Refuses (firstCandidate (Path.denoted directory name)) := by
    rw [denoted, firstCandidate, List.append_assoc]
    exact Or.inr ⟨directory, name, [".securityagent.yaml"], rfl, held, long⟩
  have noNul : '\x00' ∉ name.toList := named.lacks_nul name (List.mem_singleton_self name)
  rw [find_of_refuses wellFormed nameable noNul refuses, denoted]

theorem looks_of_not_refuses (wellFormed : tree.WellFormed) (nameable : Path.Nameable directory)
    (noNul : '\x00' ∉ start.toList)
    (goes : ¬ tree.Refuses (firstCandidate (Path.denoted directory start))) {candidate : Path}
    (member : candidate ∈ candidatePlaces (Path.denoted directory start)) :
    ((Finder.ofTree tree directory).Absent candidate ↔ tree.find? candidate = none) ∧
      ((Finder.ofTree tree directory).Present candidate ↔ tree.find? candidate ≠ none) := by
  have told : SystemCause.presence (Path.spell candidate)
      ((Finder.ofTree tree directory).look (Path.spell candidate)) =
        .ok (tree.find? candidate).isSome :=
    FileTree.presence_of_not_refuses (candidate_ne_nil member)
      (nameable_candidate (nameable.denoted noNul) member) wellFormed
      (not_refuses_candidate goes member) directory
  rw [Finder.absent_iff, Finder.present_iff, told]
  cases tree.find? candidate <;> simp

end Trees

/-- The search for a settings file, whatever the system answers to a look at a path. From the place
that the start stands for it goes upwards. It finds the file that it comes to and that is there: the
first name in the nearest directory that has one, at or above the place. It finds none if all are
absent, and it fails at the first path of which the system does not tell whether it is there.

In a tree without links and permissions it has an answer, unless the first path that is looked at is
too long. -/
theorem find_nearest :
    (∀ (finder : Finder) (start : String),
      (∀ fault, finder.resolve start = .error fault → finder.find start = .error fault) ∧
      ∀ place, finder.resolve start = .ok place →
        (∀ path, finder.find start = .ok (some path) ↔
          ∃ above name, path = Path.spell (above ++ [name]) ∧
            Reached finder.Absent place above name ∧ finder.Present (above ++ [name])) ∧
        (finder.find start = .ok none ↔
          ∀ above, above <+: place → ∀ name ∈ names, finder.Absent (above ++ [name])) ∧
        ∀ fault, finder.find start = .error fault ↔
          ∃ above name cause, fault = .file (.system (.at cause (Path.spell (above ++ [name])))) ∧
            Reached finder.Absent place above name ∧ finder.Fails (above ++ [name]) cause) ∧
    ∀ tree : FileTree, tree.WellFormed → ∀ directory, Path.Nameable directory → ∀ start : String,
      let place := Path.denoted directory start
      ('\x00' ∈ start.toList → find tree directory start = .error (.file .nulCharacter)) ∧
      ('\x00' ∉ start.toList → tree.Refuses (firstCandidate place) →
        find tree directory start =
          .error (.file (.system (.at .nameTooLong (Path.spell (firstCandidate place)))))) ∧
      ('\x00' ∉ start.toList → ¬ tree.Refuses (firstCandidate place) →
        (∃ answer, find tree directory start = .ok answer) ∧
        (∀ path, find tree directory start = .ok (some path) ↔
          ∃ above name, path = Path.spell (above ++ [name]) ∧ Nearest tree place above name) ∧
        (find tree directory start = .ok none ↔
          ∀ above, above <+: place → ∀ name ∈ names, tree.find? (above ++ [name]) = none)) := by
  refine ⟨fun finder start => ⟨fun fault failed => Finder.find_of_resolve_error failed,
    fun place resolved => ⟨fun path => Finder.find_eq_some_iff resolved,
      Finder.find_eq_none_iff resolved, fun fault => Finder.find_fails_iff resolved⟩⟩, ?_⟩
  intro tree wellFormed directory nameable start place
  refine ⟨fun nul => ?_, find_of_refuses wellFormed nameable, fun noNul goes => ?_⟩
  · exact Finder.find_of_resolve_error (if_pos (by simpa using nul))
  · have looks {candidate : Path} (member : candidate ∈ candidatePlaces place) :=
      looks_of_not_refuses wellFormed nameable noNul goes member
    have comes {candidate : Path} :
        Comes (Finder.ofTree tree directory).Absent (candidatePlaces place) candidate ↔
          Comes (fun c => tree.find? c = none) (candidatePlaces place) candidate :=
      Comes.congr fun _ member => (looks member).1
    have nothing : (∀ candidate ∈ candidatePlaces place,
          (Finder.ofTree tree directory).Absent candidate) ↔
        ∀ candidate ∈ candidatePlaces place, tree.find? candidate = none :=
      forall₂_congr fun _ member => (looks member).1
    have resolved : (Finder.ofTree tree directory).resolve start = .ok place :=
      resolve_ofTree noNul
    refine ⟨?_, fun path => ?_, ?_⟩
    · obtain absent | ⟨candidate, come, present | ⟨cause, fails⟩⟩ :=
        (Finder.ofTree tree directory).firstOf_cases (candidatePlaces place)
      · exact ⟨none, (Finder.find_eq_ok_iff resolved).mpr (Finder.firstOf_of_absent absent)⟩
      · exact ⟨some (Path.spell candidate),
          (Finder.find_eq_ok_iff resolved).mpr ((Finder.firstOf_of_comes come).1 present)⟩
      · have lacking := mt (looks come.mem).1.mpr fails.not_absent
        exact absurd ((looks come.mem).2.mpr lacking) fails.not_present
    · rw [find, Finder.find_eq_ok_iff resolved, Finder.firstOf_eq_some_iff]
      simp only [Nearest, comes]
      constructor
      · rintro ⟨candidate, come, present, rfl⟩
        obtain ⟨above, name, rfl, reached⟩ := comes_candidatePlaces_iff.mp come
        exact ⟨above, name, rfl, reached, (looks come.mem).2.mp present⟩
      · rintro ⟨above, name, rfl, reached, held⟩
        have come := comes_candidatePlaces_iff.mpr ⟨above, name, rfl, reached⟩
        exact ⟨_, come, (looks come.mem).2.mpr held, rfl⟩
    · rw [find, Finder.find_eq_ok_iff resolved, Finder.firstOf_eq_none_iff, nothing,
        forall_candidatePlaces_iff]

/-- A directory with two settings files of its own has the first of them, whatever lies above. -/
theorem find_nearest_below_sources :
    let settings : Entry := .file [] 0o644
    let tree : FileTree := ⟨[(["work"], .directory), (["work", ".securityagent.yaml"], settings),
      (["work", "src"], .directory), (["work", "src", "securityagent.json"], settings),
      (["work", "src", "securityagent.yml"], settings), (["work", "src", "routes"], .directory)]⟩
    tree.WellFormed ∧ Path.Nameable ["work"] ∧ '\x00' ∉ "src/./routes".toList ∧
      ¬ tree.Refuses (firstCandidate (Path.denoted ["work"] "src/./routes")) ∧
      Nearest tree ["work", "src", "routes"] ["work", "src"] "securityagent.yml" ∧
      find tree ["work"] "src/./routes" = .ok (some "/work/src/securityagent.yml") := by
  intro settings tree
  have wellFormed : tree.WellFormed := FileTree.WellFormed.of_entries (by decide)
  have nameable : Path.Nameable ["work"] := by decide
  have noNul : '\x00' ∉ "src/./routes".toList := by decide
  have place : Path.denoted ["work"] "src/./routes" = ["work", "src", "routes"] := by
    decide
  have goes : ¬ tree.Refuses (firstCandidate (Path.denoted ["work"] "src/./routes")) := by
    rw [place]
    exact FileTree.not_refuses_of_short (by decide) (by decide)
  have nearest : Nearest tree ["work", "src", "routes"] ["work", "src"] "securityagent.yml" := by
    refine ⟨⟨⟨["routes"], rfl⟩, fun other within beyond => ?_, ?_⟩, by decide⟩
    · rcases List.prefix_concat_iff.mp (show other <+: ["work", "src"] ++ ["routes"] from within)
        with rfl | deeper
      · decide
      · exact absurd deeper beyond
    · iterate 4 refine .later (by decide) ?_
      exact .here
  obtain ⟨-, -, found⟩ := find_nearest.2 tree wellFormed ["work"] nameable "src/./routes"
  obtain ⟨-, found, -⟩ := found noNul goes
  rw [place] at found
  exact ⟨wellFormed, nameable, noNul, goes, nearest,
    (found _).mpr ⟨["work", "src"], "securityagent.yml", rfl, nearest⟩⟩

def nestedDirectories (name : String) (depth : Nat) : FileTree :=
  ⟨(List.range depth).map fun n => (List.replicate (n + 1) name, .directory)⟩

theorem find?_nestedDirectories {name : String} {depth n : Nat} (within : n ≤ depth) :
    (nestedDirectories name depth).find? (List.replicate n name) = some .directory := by
  cases n with
  | zero => rfl
  | succ n =>
    have lookup (numbers : List Nat) (listed : n ∈ numbers) :
        (numbers.map fun n => (List.replicate (n + 1) name, Entry.directory)).lookup
          (List.replicate (n + 1) name) = some .directory := by
      induction numbers with
      | nil => cases listed
      | cons first rest ih =>
        rw [List.map_cons, List.lookup_cons]
        by_cases same : List.replicate (n + 1) name = List.replicate (first + 1) name
        · rw [beq_iff_eq.mpr same]
        · rw [beq_false_of_ne same]
          refine ih ((List.mem_cons.mp listed).resolve_left ?_)
          rintro rfl
          exact same rfl
    exact lookup _ (List.mem_range.mpr within)

theorem eq_replicate_of_nestedDirectories {name : String} {depth : Nat} {place : Path}
    (held : (nestedDirectories name depth).find? place ≠ none) :
    ∃ n ≤ depth, place = List.replicate n name := by
  by_cases below : place = []
  · exact ⟨0, Nat.zero_le _, below⟩
  · obtain ⟨entry, member⟩ := FileTree.exists_entry_of_find? below held
    obtain ⟨n, within, same⟩ := List.mem_map.mp member
    exact ⟨n + 1, List.mem_range.mp within, (congrArg Prod.fst same).symm⟩

theorem wellFormed_nestedDirectories {name : String} (isName : Path.IsName name) (depth : Nat) :
    (nestedDirectories name depth).WellFormed := by
  refine .of_entries fun e member => ?_
  obtain ⟨n, within, rfl⟩ := List.mem_map.mp member
  refine ⟨fun step inside => List.eq_of_mem_replicate inside ▸ isName, ?_⟩
  simpa using find?_nestedDirectories (Nat.le_of_lt (List.mem_range.mp within))

theorem nameable_repeated (count : Nat) {c : Char} (letter : c ∈ ['a', 'd']) :
    Path.Nameable [String.ofList (List.replicate (count + 3) c)] := by
  have other {d : Char} (ne : d ∉ ['a', 'd']) :
      d ∉ (String.ofList (List.replicate (count + 3) c)).toList := by
    rw [String.toList_ofList]
    intro member
    exact ne (List.eq_of_mem_replicate member ▸ letter)
  have longer (short : String) (few : short.toList.length < 3) :
      String.ofList (List.replicate (count + 3) c) ≠ short := by
    rintro rfl
    rw [String.toList_ofList, List.length_replicate] at few
    omega
  intro name member
  rw [List.mem_singleton.mp member]
  exact ⟨⟨longer "" (by decide), longer "." (by decide), longer ".." (by decide)⟩,
    other (by decide), other (by decide)⟩

/-- The system may take the path of a directory and not that of a file in it: there is no search. -/
theorem find_in_nestedDirectories {name : String} {depth : Nat}
    (nameable : Path.Nameable [name]) (deep : 0 < depth)
    (short : (Utf8.encode name).length ≤ FileTree.maxNameBytes)
    (taken : depth * ((Utf8.encode name).length + 1) ≤ FileTree.maxPathBytes)
    (beyond : FileTree.maxPathBytes <
      depth * ((Utf8.encode name).length + 1) +
        ((Utf8.encode ".securityagent.yaml").length + 1)) :
    (nestedDirectories name depth).exists? [] (Path.spell (List.replicate depth name)) =
        .ok true ∧
      ∀ answer,
        find (nestedDirectories name depth) [] (Path.spell (List.replicate depth name)) ≠
          .ok answer := by
  have each : Path.Nameable (List.replicate depth name) := fun step member =>
    nameable step (List.mem_singleton.mpr (List.eq_of_mem_replicate member))
  have below : List.replicate depth name ≠ [] := by
    simp [Nat.ne_of_gt deep]
  have wellFormed : (nestedDirectories name depth).WellFormed :=
    wellFormed_nestedDirectories (nameable.isName name (List.mem_singleton_self _)) depth
  have goes : ¬ (nestedDirectories name depth).Refuses (List.replicate depth name) := by
    refine FileTree.not_refuses_of_short ?_ fun step member => ?_
    · simpa [Path.length_encode_spell below] using taken
    · rwa [List.eq_of_mem_replicate member]
  have refuses : (nestedDirectories name depth).Refuses
      (firstCandidate (List.replicate depth name)) := by
    refine Or.inl ?_
    rw [firstCandidate, Path.length_encode_spell (by simp)]
    simpa using beyond
  constructor
  · rw [FileTree.exists?_of_not_refuses below each wellFormed goes,
      find?_nestedDirectories (Nat.le_refl depth)]
    rfl
  · rw [find_of_refuses wellFormed (by simp [Path.Nameable])
      (each.lacks_nul.not_mem_spell (by decide)) (by rwa [Path.denoted_spell below each])]
    simp

/-- There is no answer where the first path that is looked at is refused. A settings file that lies
above is not found where the search starts at a name that is longer than the system takes; none is
reported in a directory whose own path the system still takes, but not that of a file in it; and a
directory that may not be searched ends the search, whatever lies above it. -/
theorem long_start_refused :
    let settings : Entry := .file [] 0o644
    let start := String.ofList (List.replicate 300 'a')
    let tree : FileTree := ⟨[(["work"], .directory), (["work", ".securityagent.yaml"], settings)]⟩
    let name := String.ofList (List.replicate 254 'd')
    let place := List.replicate 16 name
    let nested := nestedDirectories name 16
    let closed : Finder := ⟨fun _ => .ok ["work", "closed"], fun path =>
      if path = "/work/.securityagent.yaml" then .ok () else .error .permissionDenied⟩
    (tree.WellFormed ∧
      Nearest tree (Path.denoted ["work"] start) ["work"] ".securityagent.yaml" ∧
      find tree ["work"] start ≠ .ok (some "/work/.securityagent.yaml")) ∧
    (nested.WellFormed ∧ nested.find? place = some .directory ∧
      nested.exists? [] (Path.spell place) = .ok true ∧
      (∀ above, above <+: place → ∀ n ∈ names, nested.find? (above ++ [n]) = none) ∧
      find nested [] (Path.spell place) ≠ .ok none) ∧
    closed.Present ["work", ".securityagent.yaml"] ∧
      ∀ answer, closed.find "closed" ≠ .ok answer := by
  intro settings start tree name place nested closed
  have startBytes : (Utf8.encode start).length = 300 := by
    rw [Utf8.encode, String.toList_ofList]
    decide +kernel
  have nameBytes : (Utf8.encode name).length = 254 := by
    rw [Utf8.encode, String.toList_ofList]
    decide +kernel
  refine ⟨?_, ?_, ?_⟩
  · have named : Path.Nameable [start] := nameable_repeated 297 (by decide)
    have wellFormed : tree.WellFormed := .of_entries (by decide)
    have empty : ∀ n ∈ names, tree.find? (["work"] ++ [start] ++ [n]) = none := by
      intro n _
      by_contra held
      obtain ⟨entry, member⟩ := FileTree.exists_entry_of_find? (by simp) held
      simp [tree] at member
    have here : Reached (fun candidate => tree.find? candidate = none) ([] ++ ["work"]) ["work"]
        ".securityagent.yaml" := Reached.concat_iff.mpr (Or.inl ⟨rfl, .here⟩)
    have work : Path.Nameable ["work"] := by decide
    have failed := find_of_long_name wellFormed work named rfl (by rw [startBytes]; decide)
    refine ⟨wellFormed, ?_, fun found => ?_⟩
    · rw [Path.denoted_name named]
      exact ⟨Reached.concat_iff.mpr (Or.inr ⟨empty, here⟩), by decide⟩
    · cases failed.symm.trans found
  · have nameable : Path.Nameable [name] := nameable_repeated 251 (by decide)
    obtain ⟨present, refused⟩ := @find_in_nestedDirectories name 16 nameable (by decide)
      (by rw [nameBytes]; decide) (by rw [nameBytes]; decide) (by rw [nameBytes]; decide)
    refine ⟨wellFormed_nestedDirectories (nameable.isName name (List.mem_singleton_self _)) 16,
      find?_nestedDirectories (Nat.le_refl 16), present, fun above _ n listed => ?_, refused none⟩
    by_contra held
    obtain ⟨count, -, parts⟩ := eq_replicate_of_nestedDirectories held
    have last : n = name := List.eq_of_mem_replicate (parts ▸ List.mem_append_right _ (by simp))
    have short := length_encode_le listed
    rw [last, nameBytes] at short
    exact absurd short (by decide)
  · have resolved : closed.resolve "closed" = .ok ["work", "closed"] := rfl
    have fails : closed.Fails (firstCandidate ["work", "closed"]) .permissionDenied :=
      ⟨by decide, rfl⟩
    refine ⟨rfl, fun answer found => ?_⟩
    cases (find_of_fails_first resolved fails).symm.trans found

end SettingsFile

end Remedy
