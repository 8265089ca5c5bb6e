/-
Two accepted sources make one accepted source when a line end is put between them. It has the
statements of the first and, on other lines, those of the second, with the references that the two
would have one after the other in a session, and what is known about these is the same.
-/

import Lox.Proofs.Grammar.Program
import Lox.Proofs.Scope.Relabelled
import Lox.Proofs.Source.Seam
import Lox.Proofs.Source.Spelling

namespace Lox.Source

open Grammar Scope

/-- The source passes all phases before it is run: with references from `low` on and before `high`
it is these statements, and these distances are found. -/
structure Reading (source : String) (low high : Reference) (statements : List Statement)
    (distances : Distances) : Prop where
  scanned : (scan source).2 = []
  parsed : parseProgram (scan source).1 low = (.ok statements, high)
  resolved : resolveProgram statements = .ok distances

/-- Nothing is wrong with the source on its own. -/
def Accepted (source : String) : Prop :=
  ∃ high statements distances, Reading source 0 high statements distances

variable {first second : String} {low middle high : Reference}
  {statements others : List Statement} {early late : Distances}

/-- An accepted source is so with whatever references. -/
theorem Accepted.reading (accepted : Accepted first) (low : Reference) :
    ∃ high statements distances, Reading first low high statements distances := by
  obtain ⟨high, statements, distances, scanned, parsed, resolved⟩ := accepted
  obtain ⟨body, last, isTokens, onlyEnd⟩ := scan_onlyEnd first
  rw [isTokens] at parsed
  have moves : Function.Injective (moved id low).reference := fun _ _ => Nat.add_left_cancel
  obtain ⟨other, resolvedToo⟩ := resolveProgram_relabel moves resolved
  refine ⟨low + high, _, other, scanned, ?_, resolvedToo⟩
  rw [isTokens]
  exact onlyEnd.parse_moved parsed low

/-- A source can be put behind another one. -/
theorem Reading.append (reading : Reading first low middle statements early)
    (readingToo : Reading second middle high others late) :
    ∃ distances, Reading (first ++ "\n" ++ second) low high
        (statements ++ Statement.relabelAll (.lines (lineBehind first)) others) distances ∧
      ∀ reference : Reference, distances[reference]? = late[reference]?.or early[reference]? := by
  obtain ⟨body, last, isTokens, onlyEnd, joined⟩ := scan_append first second reading.scanned
  obtain ⟨bodyToo, lastToo, isTokensToo, onlyEndToo⟩ := scan_onlyEnd second
  have shaped := (parseProgram_read (scan_admitted first) reading.parsed).1
  obtain ⟨distances, resolved, both⟩ :=
    resolveProgram_append shaped (lineBehind first) reading.resolved readingToo.resolved
  have parsed := reading.parsed
  have parsedToo := readingToo.parsed
  rw [isTokens] at parsed
  rw [isTokensToo] at parsedToo
  refine ⟨distances, ⟨?_, ?_, resolved⟩, both⟩
  · rw [joined, readingToo.scanned]
    rfl
  · rw [joined, isTokensToo]
    exact parse_append onlyEnd onlyEndToo parsed parsedToo (lineBehind first)

/-- Accepted sources make an accepted one. -/
theorem Accepted.append (accepted : Accepted first) (acceptedToo : Accepted second) :
    Accepted (first ++ "\n" ++ second) := by
  obtain ⟨middle, statements, early, reading⟩ := accepted
  obtain ⟨high, others, late, readingToo⟩ := acceptedToo.reading middle
  obtain ⟨distances, joined, _⟩ := reading.append readingToo
  exact ⟨high, _, distances, joined⟩

end Lox.Source
