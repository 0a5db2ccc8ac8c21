import LetterToSound.Text.Basic

namespace LetterToSound

/-- Replaces the values of a name or puts the name at its place. -/
def setSorted (name : Text) (values : List Text) :
    List (Text × List Text) → List (Text × List Text)
  | [] => [(name, values)]
  | (other, old) :: rest =>
    if name = other then (name, values) :: rest
    else if name < other then (name, values) :: (other, old) :: rest
    else (other, old) :: setSorted name values rest

theorem mem_setSorted {entry : Text × List Text} {name : Text} {values : List Text}
    {entries : List (Text × List Text)} (h : entry ∈ setSorted name values entries) :
    entry = (name, values) ∨ entry ∈ entries := by
  induction entries with
  | nil => simpa [setSorted] using h
  | cons head rest ih =>
    simp only [setSorted] at h
    split at h
    · exact (List.mem_cons.mp h).imp_right (List.mem_cons_of_mem _)
    · split at h
      · exact List.mem_cons.mp h
      · rcases List.mem_cons.mp h with rfl | h
        · exact .inr List.mem_cons_self
        · exact (ih h).imp_right (List.mem_cons_of_mem _)

def InOrder (entries : List (Text × List Text)) : Prop :=
  entries.Pairwise (·.1 < ·.1)

theorem InOrder.setSorted {entries : List (Text × List Text)} (h : InOrder entries) (name : Text)
    (values : List Text) : InOrder (setSorted name values entries) := by
  induction entries with
  | nil => simp [InOrder, LetterToSound.setSorted]
  | cons head rest ih =>
    obtain ⟨above, tail⟩ := List.pairwise_cons.mp h
    simp only [LetterToSound.setSorted]
    split
    · next same => exact List.pairwise_cons.mpr ⟨fun e he => same ▸ above e he, tail⟩
    · next other =>
      split
      · next less =>
        refine List.pairwise_cons.mpr ⟨fun e he => ?_, h⟩
        rcases List.mem_cons.mp he with rfl | he
        · exact less
        · exact List.lt_trans less (above e he)
      · next more =>
        refine List.pairwise_cons.mpr ⟨fun e he => ?_, ih tail⟩
        rcases mem_setSorted he with rfl | he
        · exact (List.le_iff_lt_or_eq.mp (List.not_lt.mp more)).resolve_right (Ne.symm other)
        · exact above e he

structure Variables where
  entries : List (Text × List Text)
  inOrder : InOrder entries

namespace Variables

def empty : Variables := ⟨[], List.Pairwise.nil⟩

def get? (vars : Variables) (name : Text) : Option (List Text) :=
  vars.entries.lookup name

def set (vars : Variables) (name : Text) (values : List Text) : Variables :=
  ⟨setSorted name values vars.entries, vars.inOrder.setSorted name values⟩

def size (vars : Variables) : Nat := vars.entries.length

end Variables

end LetterToSound
