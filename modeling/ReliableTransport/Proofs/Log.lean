import Mathlib.Data.List.Basic
/-!
This module holds what logs have in common: where an entry can stand in a log that has grown, and
what was the last thing to happen that matters.
-/

namespace ReliableTransport

/-- An entry of a log that has grown stood in it before, or it is among those that were added. -/
theorem split_append {Entry : Type} {entries more front later : List Entry} {entry : Entry}
    (same : entries ++ more = front ++ entry :: later) :
    (∃ rest, entries = front ++ entry :: rest ∧ later = rest ++ more) ∨
      ∃ between, front = entries ++ between ∧ more = between ++ entry :: later := by
  rcases List.append_eq_append_iff.mp same with ⟨between, added⟩ | ⟨rest, former, behind⟩
  · exact .inr ⟨between, added⟩
  · cases rest with
    | nil => exact .inr ⟨[], by simpa using former.symm, behind.symm⟩
    | cons first rest =>
        obtain ⟨rfl, rfl⟩ := List.cons.inj behind
        exact .inl ⟨rest, former, rfl⟩

/-- An entry of a log that has grown by one stood in it before, or it is the last one. -/
theorem split_concat {Entry : Type} {entries front later : List Entry} {last entry : Entry}
    (same : entries ++ [last] = front ++ entry :: later) :
    (∃ rest, entries = front ++ entry :: rest ∧ later = rest ++ [last]) ∨
      front = entries ∧ entry = last ∧ later = [] := by
  rcases split_append same with before | ⟨between, rfl, added⟩
  · exact .inl before
  · cases between with
    | nil =>
        obtain ⟨rfl, rfl⟩ := List.cons.inj added
        exact .inr ⟨List.append_nil _, rfl, rfl⟩
    | cons _ between =>
        have none := (List.cons.inj added).2
        exact absurd none.symm (List.append_ne_nil_of_right_ne_nil between (List.cons_ne_nil _ _))

/-- An entry of a log that was put together stood in one of its parts. -/
theorem split_flatMap {Entry Part : Type} {parts : List Part} {log : Part → List Entry}
    {front later : List Entry} {entry : Entry}
    (same : parts.flatMap log = front ++ entry :: later) :
    ∃ before part behind inner rest, parts = before ++ part :: behind ∧
      log part = inner ++ entry :: rest ∧ front = before.flatMap log ++ inner := by
  induction parts generalizing front with
  | nil => cases front <;> cases same
  | cons first others ih =>
      rw [List.flatMap_cons] at same
      rcases split_append same with ⟨rest, here, _⟩ | ⟨between, rfl, after⟩
      · exact ⟨[], first, others, front, rest, rfl, here, rfl⟩
      · obtain ⟨before, part, behind, inner, rest, rfl, there, rfl⟩ := ih after
        exact ⟨first :: before, part, behind, inner, rest, rfl, there, by simp⟩

/-- What holds of all entries of a log that has grown, each with those before it. -/
theorem forall_split_append {Entry : Type} {entries more : List Entry}
    {claim : List Entry → Entry → Prop} :
    (∀ front entry later, entries ++ more = front ++ entry :: later → claim front entry) ↔
      (∀ front entry later, entries = front ++ entry :: later → claim front entry) ∧
        ∀ front entry later, more = front ++ entry :: later → claim (entries ++ front) entry := by
  constructor
  · refine fun holds => ⟨fun front entry later same => ?_, fun front entry later same => ?_⟩
    · exact holds front entry (later ++ more) (by simp [same])
    · exact holds (entries ++ front) entry later (by simp [same])
  · rintro ⟨former, added⟩ front entry later same
    rcases split_append same with ⟨rest, split, _⟩ | ⟨between, rfl, split⟩
    · exact former front entry rest split
    · exact added between entry later split

/-- What holds of all entries of a log that has grown by one. -/
theorem forall_split_concat {Entry : Type} {entries : List Entry} {last : Entry}
    {claim : List Entry → Entry → Prop} :
    (∀ front entry later, entries ++ [last] = front ++ entry :: later → claim front entry) ↔
      (∀ front entry later, entries = front ++ entry :: later → claim front entry) ∧
        claim entries last := by
  rw [forall_split_append]
  refine and_congr_right fun _ => ⟨fun added => ?_, fun holds front entry later same => ?_⟩
  · simpa using added [] last [] rfl
  · have only : [] ++ [last] = front ++ entry :: later := same
    rcases split_concat only with ⟨rest, none, _⟩ | ⟨rfl, rfl, _⟩
    · exact absurd none.symm (List.append_ne_nil_of_right_ne_nil front (List.cons_ne_nil _ _))
    · rwa [List.append_nil]

/-- An entry of one kind stands in a log, and none of another kind behind it. -/
def Since {Entry : Type} (sets clears : Entry → Prop) (log : List Entry) : Prop :=
  ∃ front entry back, log = front ++ entry :: back ∧ sets entry ∧ ∀ later ∈ back, ¬clears later

section Since

variable {Entry : Type} {sets clears : Entry → Prop} {log more : List Entry} {entry : Entry}

@[simp] theorem since_nil : ¬Since sets clears [] := by
  rintro ⟨front, entry, back, none, _⟩
  exact List.append_ne_nil_of_right_ne_nil front (List.cons_ne_nil entry back) none.symm

@[simp] theorem since_append : Since sets clears (log ++ more) ↔
    Since sets clears more ∨ Since sets clears log ∧ ∀ later ∈ more, ¬clears later := by
  constructor
  · rintro ⟨front, entry, back, same, isSet, spared⟩
    rcases split_append same with ⟨rest, rfl, rfl⟩ | ⟨between, _, added⟩
    · refine .inr ⟨⟨front, entry, rest, rfl, isSet, fun later among => ?_⟩, fun later among => ?_⟩
      · exact spared later (List.mem_append_left more among)
      · exact spared later (List.mem_append_right rest among)
    · exact .inl ⟨between, entry, back, added, isSet, spared⟩
  · rintro (⟨front, entry, back, rfl, isSet, spared⟩ | ⟨⟨front, entry, back, rfl, isSet, spared⟩,
      quiet⟩)
    · exact ⟨log ++ front, entry, back, (List.append_assoc _ _ _).symm, isSet, spared⟩
    · refine ⟨front, entry, back ++ more, by simp, isSet, fun later among => ?_⟩
      exact (List.mem_append.mp among).elim (spared later) (quiet later)

@[simp] theorem since_cons : Since sets clears (entry :: more) ↔
    Since sets clears more ∨ sets entry ∧ ∀ later ∈ more, ¬clears later := by
  have first : Since sets clears [entry] ↔ sets entry := by
    constructor
    · rintro ⟨front, other, back, same, isSet, _⟩
      rcases List.singleton_eq_append_iff.mp same with ⟨_, only⟩ | ⟨_, none⟩
      · exact (List.cons.inj only).1 ▸ isSet
      · cases none
    · exact fun isSet => ⟨[], entry, [], rfl, isSet, by simp⟩
  rw [← List.singleton_append, since_append, first]

end Since

/-- What a log says about one of many, each of which has a number. -/
def about {Entry : Type} (key : Entry → Nat) (log : List Entry) (number : Nat) : List Entry :=
  log.filter fun entry => key entry = number

section About

variable {Entry : Type} {key : Entry → Nat} {log : List Entry} {number : Nat}

theorem about_append (key : Entry → Nat) (log more : List Entry) (number : Nat) :
    about key (log ++ more) number = about key log number ++ about key more number :=
  List.filter_append ..

theorem about_eq_self (all : ∀ entry ∈ log, key entry = number) : about key log number = log :=
  List.filter_eq_self.mpr fun entry among => decide_eq_true (all entry among)

theorem about_eq_nil (none : ∀ entry ∈ log, key entry ≠ number) : about key log number = [] :=
  List.filter_eq_nil_iff.mpr fun entry among => by simpa using none entry among

theorem mem_about {entry : Entry} :
    entry ∈ about key log number ↔ entry ∈ log ∧ key entry = number := by
  simp [about]

end About

end ReliableTransport
