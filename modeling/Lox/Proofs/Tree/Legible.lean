/-
Forms can be read back from their text. Where atoms have neither spaces nor parentheses in them, the
characters of a form say by themselves where it ends, so a text that begins with a form begins with
no other one, and two forms of one text are the same.
-/

import Lox.Tree.Form

namespace Lox.Form

/-! ### Atoms -/

/-- Whether the character goes on with an atom. -/
def continuesAtom (char : Char) : Bool :=
  char != ' ' && char != '(' && char != ')'

/-- Characters of a kind that no space and no parenthesis is of go on with atoms. -/
theorem continuesAtom_of {isKind : Char → Bool} (space : isKind ' ' = false)
    (opening : isKind '(' = false) (closing : isKind ')' = false) {char : Char}
    (ofKind : isKind char = true) : continuesAtom char = true := by
  have differs {other : Char} (isOther : isKind other = false) : (char != other) = true :=
    bne_iff_ne.mpr fun same => Bool.eq_false_iff.mp isOther (same ▸ ofKind)
  unfold continuesAtom
  rw [differs space, differs opening, differs closing]
  rfl

/-- A text that can be told from what is around it. -/
def IsAtom (text : String) : Prop :=
  text.toList ≠ [] ∧ ∀ char ∈ text.toList, continuesAtom char = true

instance (text : String) : Decidable (IsAtom text) :=
  decidable_of_iff ((!text.toList.isEmpty && text.toList.all continuesAtom) = true)
    (by simp [IsAtom])

mutual

/-- Every atom of the form can be told from what is around it. -/
def Legible : Form → Prop
  | .atom text => IsAtom text
  | .list members => AllLegible members

/-- Every one of the forms is legible. -/
def AllLegible : List Form → Prop
  | [] => True
  | form :: others => form.Legible ∧ AllLegible others

end

/-- What follows does not go on with an atom. -/
def Stops (rest : List Char) : Prop :=
  ∀ following ∈ rest.head?, continuesAtom following = false

theorem Stops.nil : Stops [] := nofun

theorem Stops.cons {first : Char} (stops : continuesAtom first = false) (rest : List Char) :
    Stops (first :: rest) := by
  rintro following ⟨⟩
  exact stops

/-- An atom ends where the text does not go on with it. -/
theorem atom_end {first second rest restToo : List Char}
    (continues : ∀ char ∈ first, continuesAtom char = true)
    (continuesToo : ∀ char ∈ second, continuesAtom char = true) (stops : Stops rest)
    (stopsToo : Stops restToo) (same : first ++ rest = second ++ restToo) :
    first = second ∧ rest = restToo := by
  have conflict {char : Char} {others behind : List Char} (stops : Stops behind)
      (goesOn : continuesAtom char = true) (same : behind = char :: others) : False :=
    Bool.eq_false_iff.mp (stops char (same ▸ rfl)) goesOn
  induction first generalizing second with
  | nil =>
    cases second with
    | nil => exact ⟨rfl, same⟩
    | cons char others =>
      exact (conflict stops (continuesToo char List.mem_cons_self) same).elim
  | cons char others inductionHypothesis =>
    cases second with
    | nil => exact (conflict stopsToo (continues char List.mem_cons_self) same.symm).elim
    | cons charToo othersToo =>
      obtain ⟨rfl, behind⟩ := List.cons.inj same
      obtain ⟨rfl, isRest⟩ := inductionHypothesis
        (fun one member => continues one (List.mem_cons_of_mem char member))
        (fun one member => continuesToo one (List.mem_cons_of_mem char member)) behind
      exact ⟨rfl, isRest⟩

/-- No atom begins as a list does. -/
theorem IsAtom.notList {text : String} (isAtom : IsAtom text) {rest others : List Char}
    (same : text.toList ++ rest = '(' :: others) : False := by
  obtain ⟨nonempty, continues⟩ := isAtom
  cases isText : text.toList with
  | nil => exact nonempty isText
  | cons first characters =>
    rw [isText] at same continues
    obtain ⟨rfl, _⟩ := List.cons.inj same
    exact absurd (continues '(' List.mem_cons_self) (by decide)

/-! ### Characters of lists -/

/-- The characters of the members behind the first one. -/
def behind (others : List Form) : List Char :=
  others.flatMap fun form => ' ' :: form.characters

theorem membersCharacters_cons (form : Form) (others : List Form) :
    membersCharacters (form :: others) = form.characters ++ behind others := by
  induction others generalizing form with
  | nil => exact (List.append_nil _).symm
  | cons other others inductionHypothesis =>
    rw [membersCharacters, inductionHypothesis]
    rfl

theorem list_append (members : List Form) (rest : List Char) :
    (Form.list members).characters ++ rest =
      '(' :: (membersCharacters members ++ ')' :: rest) := by
  rw [characters, List.cons_append, List.cons_append, List.append_assoc]
  rfl

/-- What is behind the members of a list does not go on with an atom. -/
theorem stops_behind (others : List Form) (rest : List Char) :
    Stops (behind others ++ ')' :: rest) := by
  cases others with
  | nil => exact .cons rfl _
  | cons form others => exact .cons rfl _

/-- No form begins with a closing parenthesis. -/
theorem begins (form : Form) (legible : form.Legible) :
    ∃ first rest, form.characters = first :: rest ∧ first ≠ ')' := by
  cases form with
  | atom text =>
    rw [characters]
    obtain ⟨nonempty, continues⟩ := legible
    cases isText : text.toList with
    | nil => exact absurd isText nonempty
    | cons first rest =>
      refine ⟨first, rest, rfl, ?_⟩
      rintro rfl
      exact absurd (continues ')' (isText ▸ List.mem_cons_self)) (by decide)
  | list members => exact ⟨'(', _, rfl, by decide⟩

/-! ### Reading -/

mutual

/-- A text begins with one form at most. -/
theorem read : (first second : Form) → first.Legible → second.Legible →
    {rest restToo : List Char} → Stops rest → Stops restToo →
    first.characters ++ rest = second.characters ++ restToo → first = second ∧ rest = restToo
  | .atom text, .atom textToo, legible, legibleToo, _, _, stops, stopsToo, same => by
    rw [characters, characters] at same
    -- An atom has no end of its own, so it is told where what follows stops it.
    obtain ⟨isText, isRest⟩ := atom_end legible.2 legibleToo.2 stops stopsToo same
    exact ⟨congrArg Form.atom (String.toList_inj.mp isText), isRest⟩
  | .atom text, .list members, legible, _, _, _, _, _, same => by
    rw [characters, list_append] at same
    exact (legible.notList same).elim
  | .list members, .atom text, _, legible, _, _, _, _, same => by
    rw [characters, list_append] at same
    exact (legible.notList same.symm).elim
  | .list members, .list membersToo, legible, legibleToo, _, _, _, _, same => by
    rw [list_append, list_append] at same
    obtain ⟨rfl, isRest⟩ := readMembers members membersToo legible legibleToo (List.cons.inj same).2
    exact ⟨rfl, isRest⟩

/-- A text begins with the members of one list at most. -/
theorem readMembers : (first second : List Form) → AllLegible first → AllLegible second →
    {rest restToo : List Char} →
    membersCharacters first ++ ')' :: rest = membersCharacters second ++ ')' :: restToo →
    first = second ∧ rest = restToo
  | [], [], _, _, _, _, same => ⟨rfl, (List.cons.inj same).2⟩
  | [], form :: others, _, ⟨legible, _⟩, _, _, same => by
    obtain ⟨first, rest, isForm, notClosing⟩ := form.begins legible
    rw [membersCharacters_cons, isForm] at same
    exact absurd (List.cons.inj same).1.symm notClosing
  | form :: others, [], ⟨legible, _⟩, _, _, _, same => by
    obtain ⟨first, rest, isForm, notClosing⟩ := form.begins legible
    rw [membersCharacters_cons, isForm] at same
    exact absurd (List.cons.inj same).1 notClosing
  | form :: others, formToo :: othersToo, ⟨legible, legibleOthers⟩,
      ⟨legibleToo, legibleOthersToo⟩, rest, restToo, same => by
    rw [membersCharacters_cons, membersCharacters_cons, List.append_assoc, List.append_assoc]
      at same
    obtain ⟨rfl, sameBehind⟩ := read form formToo legible legibleToo (stops_behind others rest)
      (stops_behind othersToo restToo) same
    obtain ⟨rfl, isRest⟩ := readBehind others othersToo legibleOthers legibleOthersToo sameBehind
    exact ⟨rfl, isRest⟩

/-- A text goes on with the members of one list at most. -/
theorem readBehind : (first second : List Form) → AllLegible first → AllLegible second →
    {rest restToo : List Char} →
    behind first ++ ')' :: rest = behind second ++ ')' :: restToo →
    first = second ∧ rest = restToo
  | [], [], _, _, _, _, same => ⟨rfl, (List.cons.inj same).2⟩
  | [], form :: others, _, _, _, _, same => nomatch (List.cons.inj same).1
  | form :: others, [], _, _, _, _, same => nomatch (List.cons.inj same).1
  | form :: others, formToo :: othersToo, ⟨legible, legibleOthers⟩,
      ⟨legibleToo, legibleOthersToo⟩, rest, restToo, same => by
    have sameForms : form.characters ++ (behind others ++ ')' :: rest) =
        formToo.characters ++ (behind othersToo ++ ')' :: restToo) := by
      rw [← List.append_assoc, ← List.append_assoc]
      exact (List.cons.inj same).2
    obtain ⟨rfl, sameBehind⟩ := read form formToo legible legibleToo (stops_behind others rest)
      (stops_behind othersToo restToo) sameForms
    obtain ⟨rfl, isRest⟩ := readBehind others othersToo legibleOthers legibleOthersToo sameBehind
    exact ⟨rfl, isRest⟩

end

/-- Legible forms are the same if and only if their texts are. -/
theorem text_inj {first second : Form} (legible : first.Legible) (legibleToo : second.Legible) :
    first.text = second.text ↔ first = second := by
  refine ⟨fun same => (read first second legible legibleToo .nil .nil ?_).1, congrArg text⟩
  exact congrArg (· ++ []) (String.ofList_injective same)

end Lox.Form
