import Flowchart.CommandLine.Options
import Flowchart.Proofs.Numerals
import Mathlib.Data.List.Nodup

/-!
# Options in any order

The arguments are read from left to right as groups, one for each option together with its value.
What comes out depends on the options that are given and not on the order of the groups.
-/

namespace Flowchart.CommandLine.Options

inductive Kind where
  | convert
  | repair
  | check
  | port
  | logLevel
  deriving DecidableEq

namespace Choice

/-- The arguments that give an option. A value is the argument behind the name, whatever that looks
like. -/
inductive IsGivenBy : Choice → List Text → Prop
  | convert (text : Text) : IsGivenBy (.convert text) ["--convert".toList, text]
  | repair : IsGivenBy .repair ["--repair".toList]
  | check : IsGivenBy .check ["--check".toList]
  | port {value : Text} {n : Nat} (hvalue : value.IsNumeral n) (hn : n < 0x10000) :
      IsGivenBy (.port n) ["--port".toList, value]
  | logLevel {value : Text} {level : LogLevel} (hvalue : LogLevel.ofText? value = some level) :
      IsGivenBy (.logLevel level) ["--log-level".toList, value]

/-- The option that is given, without its value. -/
def kind : Choice → Kind
  | convert _ => .convert
  | repair => .repair
  | check => .check
  | port _ => .port
  | logLevel _ => .logLevel

/-- Choices that can be made together. -/
structure AreAllowed (choices : List Choice) : Prop where
  once : (choices.map kind).Nodup
  apart : ∀ text, convert text ∈ choices → repair ∉ choices
  checked : check ∈ choices → repair ∈ choices
  served : ∀ n, port n ∈ choices → repair ∉ choices ∧ ∀ text, convert text ∉ choices

theorem AreAllowed.perm {choices choices' : List Choice} (h : AreAllowed choices)
    (hperm : choices.Perm choices') : AreAllowed choices' where
  once := (hperm.map kind).nodup_iff.1 h.once
  apart := by simpa only [hperm.mem_iff] using h.apart
  checked := by simpa only [hperm.mem_iff] using h.checked
  served := by simpa only [hperm.mem_iff] using h.served

end Choice

/-! ## Reading the groups -/

/-- Arguments that are divided into groups, each of which gives an option. -/
structure AreGroups (groups : List (Choice × List Text)) (args : List Text) : Prop where
  args_eq : groups.flatMap Prod.snd = args
  given : ∀ g ∈ groups, g.1.IsGivenBy g.2

theorem AreGroups.nil : AreGroups [] [] := ⟨rfl, List.forall_mem_nil _⟩

theorem AreGroups.cons {choice : Choice} {group rest : List Text}
    {groups : List (Choice × List Text)} (h : choice.IsGivenBy group)
    (hrest : AreGroups groups rest) : AreGroups ((choice, group) :: groups) (group ++ rest) where
  args_eq := by rw [List.flatMap_cons, hrest.args_eq]
  given := List.forall_mem_cons.2 ⟨h, hrest.given⟩

theorem choices?_append {choice : Choice} {group : List Text} (h : choice.IsGivenBy group)
    (rest : List Text) : choices? (group ++ rest) = (choices? rest).map (choice :: ·) := by
  cases h with
  | convert text => rfl
  | repair => cases rest <;> rfl
  | check => cases rest <;> rfl
  | @port value n hvalue hn =>
      have hport : Config.port? value = some n := Text.numeral?_eq_some_iff.2 ⟨hvalue, hn⟩
      show (Config.port? value).bind _ = _
      rw [hport]
      rfl
  | @logLevel value level hvalue =>
      show (LogLevel.ofText? value).bind _ = _
      rw [hvalue]
      rfl

theorem AreGroups.choices?_eq {groups : List (Choice × List Text)} {args : List Text}
    (h : AreGroups groups args) : choices? args = some (groups.map Prod.fst) := by
  obtain ⟨rfl, hgiven⟩ := h
  induction groups with
  | nil => rfl
  | cons g groups ih =>
      obtain ⟨hg, hgroups⟩ := List.forall_mem_cons.1 hgiven
      rw [List.flatMap_cons, choices?_append hg, ih hgroups]
      rfl

theorem exists_areGroups_of_choices? {args : List Text} {choices : List Choice}
    (h : choices? args = some choices) : ∃ groups, AreGroups groups args ∧
      groups.map Prod.fst = choices := by
  -- a group that is read in front of the rest
  have step {choice : Choice} {group rest : List Text} {choices : List Choice}
      (hchoice : choice.IsGivenBy group)
      (ih : ∀ {choices}, choices? rest = some choices → ∃ groups, AreGroups groups rest ∧
        groups.map Prod.fst = choices)
      (h : (choices? rest).map (choice :: ·) = some choices) :
      ∃ groups, AreGroups groups (group ++ rest) ∧ groups.map Prod.fst = choices := by
    obtain ⟨rest, hrest, rfl⟩ := Option.map_eq_some_iff.1 h
    obtain ⟨groups, hgroups, rfl⟩ := ih hrest
    exact ⟨_, hgroups.cons hchoice, rfl⟩
  fun_induction choices? args generalizing choices with
  | case1 =>
      cases h
      exact ⟨[], .nil, rfl⟩
  | case2 =>
      cases h
      exact ⟨_, AreGroups.nil.cons .repair, rfl⟩
  | case3 =>
      cases h
      exact ⟨_, AreGroups.nil.cons .check, rfl⟩
  | case4 => cases h
  | case5 value rest ih => exact step .repair ih h
  | case6 value rest _ ih => exact step .check ih h
  | case7 value rest _ _ ih => exact step (.convert value) ih h
  | case8 value rest _ _ _ ih =>
      obtain ⟨n, hn, h⟩ := Option.bind_eq_some_iff.1 h
      obtain ⟨hvalue, hlt⟩ := Text.numeral?_eq_some_iff.1 hn
      exact step (.port hvalue hlt) ih h
  | case9 value rest _ _ _ _ ih =>
      obtain ⟨level, hlevel, h⟩ := Option.bind_eq_some_iff.1 h
      exact step (.logLevel hlevel) ih h
  | case10 => cases h

/-! ## Choosing one after the other -/

/-- Whether a choice has been made, with the value that it has. -/
def Holds (o : Options) : Choice → Prop
  | .convert text => o.convert = some text
  | .repair => o.repair = true
  | .check => o.check = true
  | .port n => o.port = some n
  | .logLevel level => o.logLevel = some level

/-- Options are what they hold. -/
theorem eq_of_holds {o o' : Options} (h : ∀ choice, o.Holds choice ↔ o'.Holds choice) : o = o' := by
  have hconvert : o.convert = o'.convert := Option.ext fun text => h (.convert text)
  have hrepair : o.repair = o'.repair := Bool.eq_iff_iff.2 (h .repair)
  have hcheck : o.check = o'.check := Bool.eq_iff_iff.2 (h .check)
  have hport : o.port = o'.port := Option.ext fun n => h (.port n)
  have hlevel : o.logLevel = o'.logLevel := Option.ext fun level => h (.logLevel level)
  cases o
  cases o'
  simp_all

theorem not_holds_none (choice : Choice) : ¬ none.Holds choice := by
  cases choice <;> simp [Holds, none]

def isMade (o : Options) : Choice → Bool
  | .convert _ => o.convert.isSome
  | .repair => o.repair
  | .check => o.check
  | .port _ => o.port.isSome
  | .logLevel _ => o.logLevel.isSome

def make (o : Options) : Choice → Options
  | .convert text => { o with convert := text }
  | .repair => { o with repair := true }
  | .check => { o with check := true }
  | .port n => { o with port := n }
  | .logLevel level => { o with logLevel := level }

theorem choose_eq (o : Options) (choice : Choice) :
    o.choose choice = if o.isMade choice then .none else some (o.make choice) := by
  cases choice <;> rfl

theorem holds_make {o : Options} {choice : Choice} (h : o.isMade choice = false) (made : Choice) :
    (o.make choice).Holds made ↔ o.Holds made ∨ choice = made := by
  cases choice <;> cases made <;> simp_all [Holds, make, isMade]

theorem isMade_make_eq_false_iff (o : Options) (choice next : Choice) :
    (o.make choice).isMade next = false ↔ o.isMade next = false ∧ choice.kind ≠ next.kind := by
  cases choice <;> cases next <;> simp [make, isMade, Choice.kind]

/-- Choices can be made one after the other when no option among them is given twice, or was given
before. -/
theorem isSome_foldlM_choose_iff (o : Options) (choices : List Choice) :
    (choices.foldlM choose o).isSome = true ↔
      (choices.map Choice.kind).Nodup ∧ ∀ choice ∈ choices, o.isMade choice = false := by
  induction choices generalizing o with
  | nil => simp
  | cons choice choices ih =>
      rw [List.foldlM_cons, choose_eq]
      cases hmade : o.isMade choice with
      | true => simp [hmade]
      | false =>
          simp only [Bool.false_eq_true, if_false, Option.bind_eq_bind, Option.bind_some, ih,
            isMade_make_eq_false_iff, List.map_cons, List.nodup_cons, List.mem_map,
            List.forall_mem_cons, hmade, true_and]
          grind

theorem holds_of_foldlM_choose {o o' : Options} {choices : List Choice}
    (h : choices.foldlM choose o = some o') (made : Choice) :
    o'.Holds made ↔ o.Holds made ∨ made ∈ choices := by
  induction choices generalizing o with
  | nil =>
      cases h
      simp
  | cons choice choices ih =>
      rw [List.foldlM_cons, choose_eq] at h
      split at h
      · cases h
      · rename_i hmade
        rw [ih h, holds_make (Bool.eq_false_of_not_eq_true hmade), List.mem_cons, eq_comm, or_assoc]

/-! ## The verdict -/

theorem areCompatible_iff {o : Options} : o.areCompatible = true ↔
    (∀ text, o.Holds (.convert text) → ¬ o.Holds .repair) ∧
      (o.Holds .check → o.Holds .repair) ∧
        ∀ n, o.Holds (.port n) → ¬ o.Holds .repair ∧ ∀ text, ¬ o.Holds (.convert text) := by
  obtain ⟨convert, repair, check, port, logLevel⟩ := o
  cases convert <;> cases repair <;> cases check <;> cases port <;> simp [areCompatible, Holds]

theorem areAllowed_iff {o : Options} {choices : List Choice}
    (h : ∀ choice, o.Holds choice ↔ choice ∈ choices) : Choice.AreAllowed choices ↔
      (choices.map Choice.kind).Nodup ∧ o.areCompatible = true := by
  simp only [areCompatible_iff, h]
  exact ⟨fun ha => ⟨ha.once, ha.apart, ha.checked, ha.served⟩,
    fun ⟨once, apart, checked, served⟩ => ⟨once, apart, checked, served⟩⟩

section Start

variable {choices : List Choice} {o : Options}

theorem isSome_foldlM_choose_none_iff :
    (choices.foldlM choose none).isSome = true ↔ (choices.map Choice.kind).Nodup := by
  rw [isSome_foldlM_choose_iff]
  refine and_iff_left fun choice _ => ?_
  cases choice <;> rfl

theorem holds_of_foldlM_choose_none (h : choices.foldlM choose none = some o) (choice : Choice) :
    o.Holds choice ↔ choice ∈ choices := by
  rw [holds_of_foldlM_choose h, or_iff_right (not_holds_none choice)]

theorem foldlM_choose_none_eq_some_iff : choices.foldlM choose none = some o ↔
    (choices.map Choice.kind).Nodup ∧ ∀ choice, o.Holds choice ↔ choice ∈ choices := by
  constructor
  · intro h
    exact ⟨isSome_foldlM_choose_none_iff.1 (Option.isSome_iff_exists.2 ⟨o, h⟩),
      holds_of_foldlM_choose_none h⟩
  · rintro ⟨hdistinct, ho⟩
    obtain ⟨o', ho'⟩ := Option.isSome_iff_exists.1 (isSome_foldlM_choose_none_iff.2 hdistinct)
    have heq : o' = o :=
      eq_of_holds fun choice => (holds_of_foldlM_choose_none ho' choice).trans (ho choice).symm
    rw [ho', heq]

end Start

theorem AreGroups.parse?_eq_some_iff {groups : List (Choice × List Text)} {args : List Text}
    (h : AreGroups groups args) {o : Options} :
    parse? args = some o ↔ Choice.AreAllowed (groups.map Prod.fst) ∧
      ∀ choice, o.Holds choice ↔ choice ∈ groups.map Prod.fst := by
  rw [parse?, h.choices?_eq, Option.bind_some, Option.filter_eq_some_iff,
    foldlM_choose_none_eq_some_iff, and_right_comm]
  exact and_congr_left fun hholds => (areAllowed_iff hholds).symm

theorem AreGroups.isSome_parse?_iff {groups : List (Choice × List Text)} {args : List Text}
    (h : AreGroups groups args) :
    (parse? args).isSome = true ↔ Choice.AreAllowed (groups.map Prod.fst) := by
  constructor
  · intro hsome
    obtain ⟨o, ho⟩ := Option.isSome_iff_exists.1 hsome
    exact (h.parse?_eq_some_iff.1 ho).1
  · intro hallowed
    obtain ⟨o, ho⟩ := Option.isSome_iff_exists.1 (isSome_foldlM_choose_none_iff.2 hallowed.once)
    rw [h.parse?_eq_some_iff.2 ⟨hallowed, holds_of_foldlM_choose_none ho⟩]
    rfl

theorem AreGroups.parse?_perm {groups groups' : List (Choice × List Text)} {args : List Text}
    (h : AreGroups groups args) (hperm : groups'.Perm groups) :
    parse? (groups'.flatMap Prod.snd) = parse? args := by
  have hgroups : AreGroups groups' (groups'.flatMap Prod.snd) :=
    ⟨rfl, fun g hg => h.given g (hperm.mem_iff.1 hg)⟩
  have hchoices := hperm.map Prod.fst
  refine Option.ext fun o => ?_
  rw [hgroups.parse?_eq_some_iff, h.parse?_eq_some_iff]
  simp only [hchoices.mem_iff]
  exact and_congr_left fun _ => ⟨fun ha => ha.perm hchoices, fun ha => ha.perm hchoices.symm⟩

/-- What the arguments come to rests on the groups that they are divided into. -/
structure ReadsGroups (args : List Text) : Prop where
  isSome_iff : (parse? args).isSome = true ↔
    ∃ groups, AreGroups groups args ∧ Choice.AreAllowed (groups.map Prod.fst)
  /-- The options hold what the groups give, and nothing else. -/
  holds_iff : ∀ o, parse? args = some o → ∀ groups, AreGroups groups args →
    ∀ choice, o.Holds choice ↔ choice ∈ groups.map Prod.fst
  any_order : ∀ groups, AreGroups groups args → ∀ groups' : List (Choice × List Text),
    groups'.Perm groups → parse? (groups'.flatMap Prod.snd) = parse? args

theorem readsGroups (args : List Text) : ReadsGroups args where
  isSome_iff := by
    constructor
    · intro h
      obtain ⟨o, ho⟩ := Option.isSome_iff_exists.1 h
      obtain ⟨choices, hchoices, -⟩ := Option.bind_eq_some_iff.1 (Option.filter_eq_some_iff.1 ho).1
      obtain ⟨groups, hgroups, -⟩ := exists_areGroups_of_choices? hchoices
      exact ⟨groups, hgroups, hgroups.isSome_parse?_iff.1 h⟩
    · rintro ⟨groups, hgroups, hallowed⟩
      exact hgroups.isSome_parse?_iff.2 hallowed
  holds_iff := fun o ho groups hgroups => (hgroups.parse?_eq_some_iff.1 ho).2
  any_order := fun groups hgroups groups' hperm => hgroups.parse?_perm hperm

/-- A value may look like an option. -/
example : parse? ["--log-level".toList, "WARN".toList, "--convert".toList, "--repair".toList] =
    some ⟨some "--repair".toList, false, false, .none, some .warn⟩ := by
  decide +kernel

end Flowchart.CommandLine.Options
