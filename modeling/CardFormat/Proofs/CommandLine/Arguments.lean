/-
This file proves which words ask for a dry run. The option can stand in a word of its own, in
its long or its short form, or share a word with other short options, as long as none before
it takes the rest of the word as its value; behind two dashes it is an operand. Words that are
accepted stand for a dry run exactly if one of them asks for it.
-/

import CardFormat.Checked
import CardFormat.CommandLine.Arguments

namespace CardFormat.CommandLine

/-- The letters of a word up to the first that does not stand for an option without a value. -/
def switchLetters (letters : List Char) : List Char :=
  letters.takeWhile fun letter =>
    match Flag.ofLetter? letter with
    | some (.switch _) => true
    | _ => false

/-- The word asks for a dry run. -/
def Word.asksDryRun : Word → Bool
  | .long name value => name == "dry-run" && value.isNone
  | .short letters => (switchLetters letters).contains 'n'
  | _ => false

/-- A word in front of the two dashes asks for a dry run. -/
def asksDryRun (words : List String) : Bool :=
  ((words.map Word.ofText).takeWhile (· ≠ .separator)).any Word.asksDryRun

theorem Flag.ofLetter?_eq_dryRun_iff {letter : Char} :
    Flag.ofLetter? letter = some (.switch .dryRun) ↔ letter = 'n' := by
  unfold Flag.ofLetter?
  split <;> simp_all

theorem Flag.ofName?_eq_dryRun_iff {name : String} :
    Flag.ofName? name = some (.switch .dryRun) ↔ name = "dry-run" := by
  unfold Flag.ofName?
  split <;> simp_all

namespace Found

variable {found next : Found}

/-- What is taken unless it was there is the value, if it is taken. -/
theorem eq_of_unless {condition : Prop} [Decidable condition] {stop : Stop} {value : Found}
    (result : (if condition then Except.error stop else .ok value) = .ok next) : next = value := by
  split at result
  · cases result
  · cases result
    rfl

theorem turnOn_dryRun {switch : Switch} (result : found.turnOn switch = .ok next) :
    next.dryRun = (found.dryRun || switch == .dryRun) := by
  cases switch with
  | dryRun =>
    rw [eq_of_unless result]
    exact (Bool.or_true _).symm
  | forceFat32 | bigClusters | json =>
    rw [eq_of_unless result]
    exact (Bool.or_false _).symm
  | verbose =>
    cases result
    exact (Bool.or_false _).symm
  | help => cases result
  | version => cases result

theorem assign_dryRun {setting : Setting} {value : String}
    (result : found.assign setting value = .ok next) : next.dryRun = found.dryRun := by
  cases setting with
  | capacity | erase | label =>
    obtain ⟨read, -, ends⟩ := Checked.bind_eq_ok_iff.1 result
    cases ends
    rfl

theorem operand_dryRun {text : String} (result : found.operand text = .ok next) :
    next.dryRun = found.dryRun := by
  obtain ⟨read, -, ends⟩ := Checked.bind_eq_ok_iff.1 result
  cases ends
  rfl

theorem operands_dryRun {texts : List String} (result : texts.foldlM operand found = .ok next) :
    next.dryRun = found.dryRun := by
  induction texts generalizing found with
  | nil =>
    cases result
    rfl
  | cons text rest inductionHypothesis =>
    rw [List.foldlM_cons] at result
    obtain ⟨after, taken, others⟩ := Checked.bind_eq_ok_iff.1 result
    rw [inductionHypothesis others, operand_dryRun taken]

/-- The letters of a word turn switches on, and the rest of the word is a value. -/
theorem letters_dryRun {letters : List Char} {pending : Option Setting}
    (result : found.letters letters = .ok (next, pending)) :
    next.dryRun = (found.dryRun || (switchLetters letters).contains 'n') := by
  induction letters generalizing found with
  | nil =>
    cases result
    exact (Bool.or_false _).symm
  | cons letter rest inductionHypothesis =>
    rw [Found.letters] at result
    rw [switchLetters, List.takeWhile_cons]
    cases known : Flag.ofLetter? letter with
    | none =>
      rw [known] at result
      cases result
    | some flag =>
      rw [known] at result
      cases flag with
      | setting setting =>
        have kept : next.dryRun = found.dryRun := by
          simp only at result
          split at result
          · cases result
            rfl
          · obtain ⟨assigned, taken, ends⟩ := Checked.bind_eq_ok_iff.1 result
            cases ends
            exact assign_dryRun taken
          · obtain ⟨assigned, taken, ends⟩ := Checked.bind_eq_ok_iff.1 result
            cases ends
            exact assign_dryRun taken
        rw [kept]
        exact (Bool.or_false _).symm
      | switch switch =>
        obtain ⟨turned, taken, others⟩ := Checked.bind_eq_ok_iff.1 result
        have same : (switch == .dryRun) = ('n' == letter) := by
          have asks := @Flag.ofLetter?_eq_dryRun_iff letter
          rw [known, Option.some.injEq, Flag.switch.injEq] at asks
          rw [Bool.eq_iff_iff, beq_iff_eq, beq_iff_eq, asks, eq_comm]
        rw [inductionHypothesis others, turnOn_dryRun taken, Bool.or_assoc, same]
        rfl

theorem named_dryRun {name : String} {value : Option String} {pending : Option Setting}
    (result : found.named name value = .ok (next, pending)) :
    next.dryRun = (found.dryRun || (name == "dry-run" && value.isNone)) := by
  have asks := @Flag.ofName?_eq_dryRun_iff name
  unfold Found.named at result
  split at result
  · rename_i switch known
    obtain ⟨turned, taken, ends⟩ := Checked.bind_eq_ok_iff.1 result
    cases ends
    rw [known, Option.some.injEq, Flag.switch.injEq] at asks
    have same : (switch == .dryRun) = (name == "dry-run") := by
      rw [Bool.eq_iff_iff, beq_iff_eq, beq_iff_eq, asks]
    rw [turnOn_dryRun taken, same, Option.isNone_none, Bool.and_true]
  · rename_i setting known
    cases result
    have other : (name == "dry-run") = false := by
      rw [beq_eq_false_iff_ne, ne_eq, ← asks, known]
      exact fun impossible => nomatch impossible
    rw [other, Bool.false_and, Bool.or_false]
  · obtain ⟨assigned, taken, ends⟩ := Checked.bind_eq_ok_iff.1 result
    cases ends
    rw [assign_dryRun taken, Option.isNone_some, Bool.and_false, Bool.or_false]
  · cases result

end Found

/-- The words add the dry run that they ask for. -/
theorem readWords_dryRun {found next : Found} {pending : Option Setting} {words : List String}
    (result : readWords found pending words = .ok next) :
    next.dryRun = (found.dryRun || asksDryRun words) := by
  induction words generalizing found pending with
  | nil =>
    unfold readWords at result
    split at result
    · cases result
    · cases result
      exact (Bool.or_false _).symm
  | cons text rest inductionHypothesis =>
    unfold readWords at result
    rw [asksDryRun, List.map_cons, List.takeWhile_cons]
    cases pending with
    | some setting =>
      cases word : Word.ofText text with
      | plain value =>
        rw [word] at result
        obtain ⟨assigned, taken, others⟩ := Checked.bind_eq_ok_iff.1 result
        rw [inductionHypothesis others, Found.assign_dryRun taken]
        rfl
      | separator | long | short =>
        rw [word] at result
        cases result
    | none =>
      cases word : Word.ofText text with
      | separator =>
        rw [word] at result
        rw [Found.operands_dryRun result]
        exact (Bool.or_false _).symm
      | plain value =>
        rw [word] at result
        obtain ⟨named, taken, others⟩ := Checked.bind_eq_ok_iff.1 result
        rw [inductionHypothesis others, Found.operand_dryRun taken]
        rfl
      | short letters =>
        rw [word] at result
        obtain ⟨⟨turned, still⟩, taken, others⟩ := Checked.bind_eq_ok_iff.1 result
        rw [inductionHypothesis others, Found.letters_dryRun taken, Bool.or_assoc]
        rfl
      | long name value =>
        rw [word] at result
        obtain ⟨⟨turned, still⟩, taken, others⟩ := Checked.bind_eq_ok_iff.1 result
        rw [inductionHypothesis others, Found.named_dryRun taken, Bool.or_assoc]
        rfl

/-- Words that are accepted stand for a dry run if one of them asks for it. -/
theorem dryRun_of_ofWords {words : List String} {arguments : Arguments}
    (accepted : Arguments.ofWords words = .ok arguments) :
    arguments.options.dryRun = asksDryRun words := by
  obtain ⟨found, read, finished⟩ := Checked.bind_eq_ok_iff.1 accepted
  have asked := readWords_dryRun read
  unfold Found.finish at finished
  cases named : found.device with
  | none =>
    rw [named] at finished
    cases finished
  | some device =>
    rw [named] at finished
    cases finished
    exact asked

example : asksDryRun ["-fn", "card.img"] = true := by decide

example : asksDryRun ["-ln", "--", "-n"] = false := by decide

end CardFormat.CommandLine
