import Mathlib.Data.List.Nodup
import Mathlib.Logic.Relation
import Remedy.Settings.Basic

/-!
# Sections of a settings file

The sections of a settings file are brought to its top level one after the other, each over what is
there already. As no title is the name of a setting, no two sections share a title and no setting
stands in two places, what a setting has in the end is the member of its own section, or else what
stands at the top level under its name. All else in a file, and the order of what is in it, makes
no difference.
-/

set_option autoImplicit false

namespace Remedy

/-! ## Mappings -/

namespace Value

theorem sameKey_str_iff {key : Value} {name : String} :
    key.sameKey (.str name) = true ↔ key = .str name := by
  cases key <;> simp [sameKey, quantity?]

theorem lookup_cons_self (name : String) (value : Value) (rest : List (Value × Value)) :
    lookup name ((.str name, value) :: rest) = some value :=
  if_pos (sameKey_str_iff.mpr rfl)

theorem lookup_cons_of_ne {name : String} {key : Value} (other : key ≠ .str name) (value : Value)
    (rest : List (Value × Value)) : lookup name ((key, value) :: rest) = lookup name rest :=
  if_neg fun same => other (sameKey_str_iff.mp same)

theorem lookup_insert (name other : String) (value : Value) (entries : List (Value × Value)) :
    lookup name (insert (.str other) value entries) =
      if other = name then some value else lookup name entries := by
  induction entries with
  | nil => simp [insert, lookup, sameKey_str_iff]
  | cons entry rest ih =>
    obtain ⟨key, old⟩ := entry
    by_cases here : key = .str other
    · simp only [insert, here, sameKey_str_iff, if_true]
      by_cases same : other = name
      · rw [if_pos same, same, lookup_cons_self]
      · rw [if_neg same, lookup_cons_of_ne (by simpa using same),
          lookup_cons_of_ne (by simpa using same)]
    · simp only [insert, sameKey_str_iff, here, if_false]
      by_cases found : key = .str name
      · have unlike : other ≠ name := fun same => here (same ▸ found)
        rw [found, lookup_cons_self, lookup_cons_self, if_neg unlike]
      · rw [lookup_cons_of_ne found, lookup_cons_of_ne found, ih]

theorem lookup_remove (name other : String) (entries : List (Value × Value)) :
    lookup name (remove other entries) = if other = name then none else lookup name entries := by
  unfold remove
  induction entries with
  | nil => simp [lookup]
  | cons entry rest ih =>
    obtain ⟨key, value⟩ := entry
    by_cases here : key = .str other
    · rw [List.filter_cons_of_neg (by simp [sameKey_str_iff, here]), ih, here]
      by_cases same : other = name
      · rw [if_pos same, if_pos same]
      · rw [if_neg same, if_neg same, lookup_cons_of_ne (by simpa using same)]
    · rw [List.filter_cons_of_pos (by simp [Bool.eq_false_iff, sameKey_str_iff, here])]
      by_cases found : key = .str name
      · have unlike : other ≠ name := fun same => here (same ▸ found)
        rw [found, lookup_cons_self, lookup_cons_self, if_neg unlike]
      · rw [lookup_cons_of_ne found, lookup_cons_of_ne found, ih]

theorem lookup_eq_none {name : String} {entries : List (Value × Value)}
    (absent : .str name ∉ entries.map Prod.fst) : lookup name entries = none := by
  induction entries with
  | nil => rfl
  | cons entry rest ih =>
    rw [List.map_cons, List.mem_cons, not_or] at absent
    rw [lookup_cons_of_ne (Ne.symm absent.1), ih absent.2]

theorem lookup_append (name : String) (first second : List (Value × Value)) :
    lookup name (first ++ second) = (lookup name first).or (lookup name second) := by
  induction first with
  | nil => rfl
  | cons entry rest ih =>
    obtain ⟨key, value⟩ := entry
    simp only [List.cons_append, lookup, ih]
    split <;> rfl

theorem lookup_amid_of_ne {name : String} {key : Value} (other : key ≠ .str name) (value : Value)
    (before after : List (Value × Value)) :
    lookup name (before ++ (key, value) :: after) = lookup name (before ++ after) := by
  rw [lookup_append, lookup_cons_of_ne other, lookup_append]

/-- The order of a mapping's entries makes no difference to what stands under a key. -/
theorem lookup_perm {first second : List (Value × Value)} (permuted : first.Perm second)
    (distinct : (first.map Prod.fst).Nodup) (name : String) :
    lookup name first = lookup name second := by
  induction permuted with
  | nil => rfl
  | cons entry _ ih =>
    obtain ⟨key, value⟩ := entry
    rw [List.map_cons, List.nodup_cons] at distinct
    simp only [lookup, ih distinct.2]
  | swap entry other rest =>
    obtain ⟨key, value⟩ := entry
    obtain ⟨key', value'⟩ := other
    have unlike : key' ≠ key := by
      simp only [List.map_cons, List.nodup_cons, List.mem_cons, not_or] at distinct
      exact distinct.1.1
    by_cases found : key = .str name
    · subst found
      rw [lookup_cons_of_ne unlike, lookup_cons_self, lookup_cons_self]
    · simp only [lookup, sameKey_str_iff, found, if_false]
  | trans permuted _ ih ih' =>
    exact (ih distinct).trans (ih' ((permuted.map Prod.fst).nodup_iff.mp distinct))

/-- What stands under a key in the section of a title, if that is a mapping. -/
def member? (title key : String) (entries : List (Value × Value)) : Option Value :=
  match lookup title entries with
  | some (.map members) => lookup key members
  | _ => none

end Value

/-! ## Where settings stand -/

namespace Setting

theorem name_injective : Function.Injective name := by
  have named (setting : Setting) : all.find? (·.name = setting.name) = some setting := by
    cases setting <;> decide
  intro first second same
  have found := named first
  rw [same, named second] at found
  exact (Option.some.inj found).symm

/-- The section and the key in it under which a setting may stand. -/
def inSection? : Setting → Option (String × String)
  | geminiModel => some ("gemini", "model")
  | geminiKey => some ("gemini", "api_key")
  | ollamaModel => some ("ollama", "model")
  | ollamaUrl => some ("ollama", "url")
  | baseRef => some ("changes", "base_ref")
  | remote => some ("changes", "remote")
  | extensions => some ("changes", "extensions")
  | excludedPaths => some ("changes", "exclude")
  | categories => some ("detection", "categories")
  | dryRun => some ("remediation", "dry_run")
  | failOnError => some ("remediation", "fail_on_error")
  | requestTimeout => some ("remediation", "request_timeout")
  | maxRetries => some ("remediation", "max_retries")
  | retryDelay => some ("remediation", "retry_delay")
  | outputFormat => some ("output", "format")
  | provider => none
  | root => none

/-- What a file's entries say about a setting in the section for it. -/
def fromSection? (setting : Setting) (entries : List (Value × Value)) : Option Value :=
  match setting.inSection? with
  | some (title, key) => Value.member? title key entries
  | none => none

def keyIn? (keys : List (String × Setting)) (setting : Setting) : Option String :=
  (keys.find? (·.2 = setting)).map Prod.fst

theorem keyIn?_eq_none {keys : List (String × Setting)} {setting : Setting}
    (absent : setting ∉ keys.map Prod.snd) : keyIn? keys setting = none := by
  rw [keyIn?, Option.map_eq_none_iff, List.find?_eq_none]
  intro place member isSetting
  exact absent (List.mem_map.mpr ⟨place, member, by simpa using isSetting⟩)

theorem mem_of_keyIn? {keys : List (String × Setting)} {setting : Setting} {key : String}
    (stands : keyIn? keys setting = some key) : (key, setting) ∈ keys := by
  obtain ⟨place, found, rfl⟩ := Option.map_eq_some_iff.mp stands
  have isSetting : place.2 = setting := by
    simpa using List.find?_some found
  rw [← isSetting]
  exact List.mem_of_find?_eq_some found

/-- The title of the section that a setting has a key in, and the key. -/
def placeIn? (parts : List Section) (setting : Setting) : Option (String × String) :=
  parts.findSome? fun part => (keyIn? part.keys setting).map (part.title, ·)

theorem keyIn?_cons (place : String × Setting) (rest : List (String × Setting))
    (setting : Setting) :
    keyIn? (place :: rest) setting =
      if place.2 = setting then some place.1 else keyIn? rest setting := by
  by_cases here : place.2 = setting
  · simp [keyIn?, here]
  · simp [keyIn?, here]

theorem placeIn?_cons (part : Section) (rest : List Section) (setting : Setting) :
    placeIn? (part :: rest) setting =
      ((keyIn? part.keys setting).map (part.title, ·)).or (placeIn? rest setting) := by
  rw [placeIn?, List.findSome?_cons]
  cases keyIn? part.keys setting <;> rfl

theorem exists_of_placeIn? {parts : List Section} {setting : Setting} {place : String × String}
    (stands : placeIn? parts setting = some place) :
    ∃ part ∈ parts, part.title = place.1 ∧ (place.2, setting) ∈ part.keys := by
  obtain ⟨part, member, found⟩ := List.exists_of_findSome?_eq_some stands
  obtain ⟨key, isKey, rfl⟩ := Option.map_eq_some_iff.mp found
  exact ⟨part, member, rfl, mem_of_keyIn? isKey⟩

theorem placeIn?_sections (setting : Setting) :
    placeIn? sections setting = setting.inSection? := by
  cases setting <;> decide

/-- Sections without a collision: of their titles, with each other and with names of settings, and
of their settings. -/
structure Apart (parts : List Section) : Prop where
  titles : (parts.map Section.title).Nodup
  names : ∀ part ∈ parts, ∀ setting : Setting, part.title ≠ setting.name
  settings : (parts.flatMap fun part => part.keys.map Prod.snd).Nodup

theorem mem_all (setting : Setting) : setting ∈ all := by
  cases setting <;> decide

theorem apart_sections : Apart sections := by
  refine ⟨by decide, fun part member setting => ?_, by decide⟩
  have none : ∀ part ∈ sections, ∀ setting ∈ all, part.title ≠ setting.name := by
    decide
  exact none part member setting (mem_all setting)

end Setting

/-! ## Raising sections -/

namespace Layer

open Value

theorem lookup_raiseMember (members top : List (Value × Value)) (place : String × Setting)
    (name : String) :
    lookup name (raiseMember members top place) =
      (if place.2.name = name then lookup place.1 members else none).or (lookup name top) := by
  unfold raiseMember
  cases lookup place.1 members with
  | none => simp
  | some value =>
    rw [lookup_insert]
    split <;> rfl

theorem lookup_raiseMembers_of_ne {keys : List (String × Setting)} {name : String}
    (other : ∀ place ∈ keys, place.2.name ≠ name) (members top : List (Value × Value)) :
    lookup name (keys.foldl (raiseMember members) top) = lookup name top := by
  induction keys generalizing top with
  | nil => rfl
  | cons place rest ih =>
    rw [List.foldl_cons, ih (fun later member => other later (List.mem_cons_of_mem _ member)),
      lookup_raiseMember, if_neg (other place (List.mem_cons_self ..)), Option.none_or]

theorem lookup_raiseMembers {keys : List (String × Setting)}
    (distinct : (keys.map Prod.snd).Nodup) (members top : List (Value × Value))
    (setting : Setting) :
    lookup setting.name (keys.foldl (raiseMember members) top) =
      ((Setting.keyIn? keys setting).bind (lookup · members)).or (lookup setting.name top) := by
  induction keys generalizing top with
  | nil => rfl
  | cons place rest ih =>
    rw [List.map_cons, List.nodup_cons] at distinct
    rw [List.foldl_cons, ih distinct.2, lookup_raiseMember]
    by_cases here : place.2 = setting
    · subst here
      simp [Setting.keyIn?_cons, Setting.keyIn?_eq_none distinct.1]
    · have unlike : place.2.name ≠ setting.name := fun same => here (Setting.name_injective same)
      simp [Setting.keyIn?_cons, here, unlike]

theorem lookup_raiseSection_of_ne {part : Setting.Section} {name : String}
    (untitled : part.title ≠ name) (unnamed : ∀ setting : Setting, name ≠ setting.name)
    (entries : List (Value × Value)) :
    lookup name (raiseSection entries part) = lookup name entries := by
  unfold raiseSection
  have removed : lookup name (remove part.title entries) = lookup name entries := by
    rw [lookup_remove, if_neg untitled]
  split
  · rw [lookup_raiseMembers_of_ne (fun place _ same => unnamed place.2 same.symm), removed]
  · exact removed

theorem lookup_raiseSection {part : Setting.Section}
    (untitled : ∀ setting : Setting, part.title ≠ setting.name)
    (distinct : (part.keys.map Prod.snd).Nodup) (entries : List (Value × Value))
    (setting : Setting) :
    lookup setting.name (raiseSection entries part) =
      ((Setting.keyIn? part.keys setting).bind fun key => member? part.title key entries).or
        (lookup setting.name entries) := by
  have removed : lookup setting.name (remove part.title entries) = lookup setting.name entries := by
    rw [lookup_remove, if_neg (untitled setting)]
  unfold raiseSection
  split
  · next members isMapping =>
    simp only [member?, isMapping]
    rw [lookup_raiseMembers distinct, removed]
  · next noMapping =>
    have nothing (key : String) : member? part.title key entries = none := by
      unfold member?
      split
      · next members isMapping => exact absurd isMapping (noMapping members)
      · rfl
    rw [removed]
    cases Setting.keyIn? part.keys setting <;> simp [nothing]

/-- Sections without a collision put the member of its own section over what a setting has. -/
theorem lookup_raiseSections {parts : List Setting.Section} (apart : Setting.Apart parts)
    (entries : List (Value × Value)) (setting : Setting) :
    lookup setting.name (parts.foldl raiseSection entries) =
      ((Setting.placeIn? parts setting).bind fun place => member? place.1 place.2 entries).or
        (lookup setting.name entries) := by
  induction parts generalizing entries with
  | nil => rfl
  | cons part rest ih =>
    obtain ⟨titles, names, settings⟩ := apart
    rw [List.map_cons, List.nodup_cons] at titles
    rw [List.flatMap_cons, List.nodup_append] at settings
    obtain ⟨own, others, apart⟩ := settings
    have later : Setting.Apart rest :=
      ⟨titles.2, fun part member => names part (List.mem_cons_of_mem _ member), others⟩
    rw [List.foldl_cons, ih later, lookup_raiseSection (names part (List.mem_cons_self ..)) own,
      Setting.placeIn?_cons]
    cases stands : Setting.keyIn? part.keys setting with
    | some key =>
      have nowhere : Setting.placeIn? rest setting = none := by
        by_contra somewhere
        obtain ⟨place, isPlace⟩ := Option.ne_none_iff_exists'.mp somewhere
        obtain ⟨other, member, -, among⟩ := Setting.exists_of_placeIn? isPlace
        exact apart _ (List.mem_map_of_mem (Setting.mem_of_keyIn? stands)) _
          (List.mem_flatMap.mpr ⟨other, member, List.mem_map_of_mem among⟩) rfl
      simp [nowhere]
    | none =>
      cases isPlace : Setting.placeIn? rest setting with
      | none => rfl
      | some place =>
        obtain ⟨other, member, title, -⟩ := Setting.exists_of_placeIn? isPlace
        have kept : lookup place.1 (raiseSection entries part) = lookup place.1 entries := by
          rw [← title]
          refine lookup_raiseSection_of_ne (fun same => titles.1 ?_)
            (names other (List.mem_cons_of_mem _ member)) entries
          exact same ▸ List.mem_map_of_mem member
        simp [member?, kept]

/-- A setting has the member of its own section, or else what stands at the top level. -/
theorem ofEntries_apply (entries : List (Value × Value)) (setting : Setting) :
    ofEntries entries setting =
      (setting.fromSection? entries).or (Value.lookup setting.name entries) := by
  rw [ofEntries, lookup_raiseSections Setting.apart_sections, Setting.placeIn?_sections,
    Setting.fromSection?]
  cases setting.inSection? <;> rfl

end Layer

/-! ## What makes no difference -/

/-- A change of a file's entries that no setting hangs on: keys in another order, at the top level
or in a section, a key that nobody knows, or a section that is no mapping. -/
inductive Immaterial : List (Value × Value) → List (Value × Value) → Prop where
  | order {first second : List (Value × Value)} (permuted : first.Perm second)
      (distinct : (first.map Prod.fst).Nodup) : Immaterial first second
  | orderIn (part : Setting.Section) (among : part ∈ Setting.sections)
      (before after : List (Value × Value)) {first second : List (Value × Value)}
      (permuted : first.Perm second) (distinct : (first.map Prod.fst).Nodup) :
      Immaterial (before ++ (.str part.title, .map first) :: after)
        (before ++ (.str part.title, .map second) :: after)
  | unknown (key value : Value) (before after : List (Value × Value))
      (unnamed : ∀ setting : Setting, key ≠ .str setting.name)
      (untitled : ∀ part ∈ Setting.sections, key ≠ .str part.title) :
      Immaterial (before ++ (key, value) :: after) (before ++ after)
  | unknownIn (part : Setting.Section) (among : part ∈ Setting.sections)
      (before after : List (Value × Value)) (key value : Value)
      (first second : List (Value × Value)) (unknown : ∀ place ∈ part.keys, key ≠ .str place.1) :
      Immaterial (before ++ (.str part.title, .map (first ++ (key, value) :: second)) :: after)
        (before ++ (.str part.title, .map (first ++ second)) :: after)
  | noMapping (part : Setting.Section) (among : part ∈ Setting.sections) (value : Value)
      (before after : List (Value × Value)) (other : ∀ members, value ≠ .map members)
      (distinct : ((before ++ (.str part.title, value) :: after).map Prod.fst).Nodup) :
      Immaterial (before ++ (.str part.title, value) :: after) (before ++ after)

namespace Immaterial

open Value

theorem lookup_section (part : Setting.Section) (among : part ∈ Setting.sections)
    (before after : List (Value × Value)) (value value' : Value) (setting : Setting) :
    lookup setting.name (before ++ (.str part.title, value) :: after) =
      lookup setting.name (before ++ (.str part.title, value') :: after) := by
  have other : Value.str part.title ≠ .str setting.name := by
    simpa using Setting.apart_sections.names part among setting
  rw [lookup_amid_of_ne other, lookup_amid_of_ne other]

theorem member?_section {title key : String} {before after first second : List (Value × Value)}
    {own : String} (same : own = title → lookup key first = lookup key second) :
    member? title key (before ++ (.str own, .map first) :: after) =
      member? title key (before ++ (.str own, .map second) :: after) := by
  unfold member?
  rw [lookup_append, lookup_append]
  cases lookup title before with
  | some value => rfl
  | none =>
    rw [Option.none_or, Option.none_or]
    by_cases here : own = title
    · rw [here, lookup_cons_self, lookup_cons_self]
      exact same here
    · rw [lookup_cons_of_ne (by simpa using here), lookup_cons_of_ne (by simpa using here)]

theorem lookup_eq {first second : List (Value × Value)} (change : Immaterial first second)
    (setting : Setting) : lookup setting.name first = lookup setting.name second := by
  cases change with
  | order permuted distinct => exact lookup_perm permuted distinct _
  | orderIn part among before after permuted distinct =>
    exact lookup_section part among before after _ _ setting
  | unknown key value before after unnamed untitled =>
    exact lookup_amid_of_ne (unnamed setting) value before after
  | unknownIn part among before after key value first second unknown =>
    exact lookup_section part among before after _ _ setting
  | noMapping part among value before after other distinct =>
    refine lookup_amid_of_ne ?_ value before after
    simpa using Setting.apart_sections.names part among setting

theorem member?_of_noMapping {title : String} {value : Value} {before after : List (Value × Value)}
    (other : ∀ members, value ≠ .map members)
    (distinct : ((before ++ (.str title, value) :: after).map Prod.fst).Nodup) (key : String) :
    member? title key (before ++ (.str title, value) :: after) = none ∧
      member? title key (before ++ after) = none := by
  rw [List.map_append, List.map_cons, List.nodup_append, List.nodup_cons] at distinct
  obtain ⟨-, ⟨later, -⟩, earlier⟩ := distinct
  have unsaid : lookup title before = none :=
    lookup_eq_none fun member => earlier _ member _ (List.mem_cons_self ..) rfl
  constructor
  · unfold member?
    rw [lookup_append, unsaid, Option.none_or, lookup_cons_self]
    split
    · next members isMapping => exact absurd (Option.some.inj isMapping) (other members)
    · rfl
  · simp [member?, lookup_append, unsaid, lookup_eq_none later]

theorem fromSection?_eq {first second : List (Value × Value)} (change : Immaterial first second)
    (setting : Setting) : setting.fromSection? first = setting.fromSection? second := by
  unfold Setting.fromSection?
  cases stands : setting.inSection? with
  | none => rfl
  | some place =>
    rw [← Setting.placeIn?_sections] at stands
    obtain ⟨own, isPart, title, among⟩ := Setting.exists_of_placeIn? stands
    dsimp only
    rw [← title]
    cases change with
    | order permuted distinct => simp only [member?, lookup_perm permuted distinct]
    | orderIn part _ before after permuted distinct =>
      exact member?_section fun _ => lookup_perm permuted distinct _
    | unknown key value before after unnamed untitled =>
      simp only [member?, lookup_amid_of_ne (untitled own isPart)]
    | unknownIn part isPart' before after key value first second unknown =>
      refine member?_section fun same => lookup_amid_of_ne ?_ value first second
      have isOwn : part = own :=
        List.inj_on_of_nodup_map Setting.apart_sections.titles isPart' isPart same
      exact unknown _ (isOwn ▸ among)
    | noMapping part _ value before after other distinct =>
      by_cases same : part.title = own.title
      · rw [← same]
        obtain ⟨there, gone⟩ := member?_of_noMapping other distinct place.2
        rw [there, gone]
      · simp only [member?]
        rw [lookup_amid_of_ne (by simpa using same)]

theorem ofEntries_eq {first second : List (Value × Value)} (change : Immaterial first second) :
    Layer.ofEntries first = Layer.ofEntries second := by
  funext setting
  rw [Layer.ofEntries_apply, Layer.ofEntries_apply, change.lookup_eq, change.fromSection?_eq]

theorem ofEntries_eq_of_eqvGen {first second : List (Value × Value)}
    (changes : Relation.EqvGen Immaterial first second) :
    Layer.ofEntries first = Layer.ofEntries second := by
  induction changes with
  | rel first second change => exact change.ofEntries_eq
  | refl entries => rfl
  | symm first second _ ih => exact ih.symm
  | trans first second third _ _ ih ih' => exact ih.trans ih'

end Immaterial

end Remedy
