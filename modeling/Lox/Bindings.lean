/-
Finite maps from names, kept as a list of entries in which each name stands once. Writing a name
that has an entry replaces the value in its place; a new name goes to the end.
-/

namespace Lox

/-- A finite map from names to values. -/
structure Bindings (Value : Type) where
  entries : List (String × Value)
deriving Repr

namespace Bindings

variable {Value : Type}

/-- The map without entries. -/
def empty : Bindings Value := ⟨[]⟩

/-- The map without entries stands for any map. -/
instance : Inhabited (Bindings Value) := ⟨empty⟩

/-- The value that entries give a name. -/
def readEntry (name : String) : List (String × Value) → Option Value
  | [] => none
  | entry :: others => if name = entry.1 then some entry.2 else readEntry name others

/-- The value of a name. -/
def get? (bindings : Bindings Value) (name : String) : Option Value :=
  readEntry name bindings.entries

/-- Whether a name has a value. -/
def contains (bindings : Bindings Value) (name : String) : Bool :=
  (bindings.get? name).isSome

/-- The entries with the value of one name replaced or added. -/
def writeEntry (name : String) (value : Value) : List (String × Value) → List (String × Value)
  | [] => [(name, value)]
  | entry :: others =>
    if name = entry.1 then (name, value) :: others else entry :: writeEntry name value others

/-- The map with one name given a value. -/
def write (bindings : Bindings Value) (name : String) (value : Value) : Bindings Value :=
  ⟨writeEntry name value bindings.entries⟩

/-! ### Reading what was written -/

/-- A written name has the value written, and every other name the value the entries gave it. -/
theorem readEntry_writeEntry (entries : List (String × Value)) (name other : String)
    (value : Value) :
    readEntry other (writeEntry name value entries) =
      if other = name then some value else readEntry other entries := by
  induction entries with
  | nil => rfl
  | cons entry others inductionHypothesis =>
    unfold writeEntry
    split
    · rename_i found
      subst found
      by_cases same : other = entry.1 <;> simp [readEntry, same]
    · rename_i different
      by_cases head : other = entry.1
      · simp [readEntry, head, Ne.symm different]
      · simp [readEntry, head, inductionHypothesis]

/-- A written name has the value written, and every other name the value it had. -/
theorem get?_write (bindings : Bindings Value) (name other : String) (value : Value) :
    (bindings.write name value).get? other =
      if other = name then some value else bindings.get? other :=
  readEntry_writeEntry bindings.entries name other value

/-- The map without entries gives no name a value. -/
@[simp] theorem get?_empty (name : String) : (empty : Bindings Value).get? name = none := rfl

end Bindings

end Lox
