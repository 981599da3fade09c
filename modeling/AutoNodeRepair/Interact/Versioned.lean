import Mathlib.Data.List.Basic
import Mathlib.Logic.Function.Basic

/-!
# A cell with revisions

The remedy for the lost update of `Interleave`: every write of a shared cell gives it a
new revision, and a client that wants to change what it has read sends along the revision
it has read. `Cell.edits_eq_of_revision_eq` is why that is enough: while the revision is
the same, nothing has been written.

Clients are shown the revisions as texts that they can only compare (`Stamps`).
-/

namespace Interact

variable {α : Type}

/-- A cell that may be empty, and how many writes it has had. -/
structure Cell (α : Type) where
  content : Option α
  revision : Nat

namespace Cell

/-- A write. -/
def put (c : Cell α) (content : Option α) : Cell α := ⟨content, c.revision + 1⟩

/-- What a client makes of the content: a change, the creation or the deletion of it. -/
abbrev Edit (α : Type) := Option α → Option α

def edit (c : Cell α) (f : Edit α) : Cell α := c.put (f c.content)

def edits (c : Cell α) (fs : List (Edit α)) : Cell α := fs.foldl edit c

@[simp] theorem put_content (c : Cell α) (content : Option α) :
    (c.put content).content = content := rfl

@[simp] theorem put_revision (c : Cell α) (content : Option α) :
    (c.put content).revision = c.revision + 1 := rfl

@[simp] theorem edits_revision (c : Cell α) (fs : List (Edit α)) :
    (c.edits fs).revision = c.revision + fs.length := by
  induction fs generalizing c with
  | nil => rfl
  | cons f rest ih =>
      show ((c.edit f).edits rest).revision = _
      rw [ih, List.length_cons]
      show c.revision + 1 + rest.length = _
      omega

/-- A cell that still has its revision still has its content. -/
theorem edits_eq_of_revision_eq {c : Cell α} {fs : List (Edit α)}
    (hrev : (c.edits fs).revision = c.revision) : c.edits fs = c := by
  rw [edits_revision] at hrev
  have hnone : fs = [] := List.length_eq_zero_iff.mp (by omega)
  rw [hnone]
  rfl

end Cell

/-- How the revisions are shown. -/
structure Stamps where
  stamp : Nat → String
  injective : Function.Injective stamp
  ne_empty : ∀ n, stamp n ≠ ""

/-- The revisions as tallies. -/
def Stamps.tally : Stamps where
  stamp n := String.ofList (List.replicate (n + 1) '|')
  injective n k h := by
    have hlists := congrArg String.toList h
    simpa using congrArg List.length hlists
  ne_empty n h := by
    have hlist := congrArg String.toList h
    simp [List.replicate_succ] at hlist

end Interact
