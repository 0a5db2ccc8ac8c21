namespace LetterToSound

/-- A text is the list of its code points, so positions and lengths count code points. -/
abbrev Text := List Char

instance : Coe String Text := ⟨String.toList⟩

/-- Named, so that every membership check on texts uses the same proof. -/
instance : LawfulBEq Text := inferInstance

/-- The decimal digits of a number. -/
def Text.ofNat (n : Nat) : Text := Nat.toDigits 10 n

/-- The number of bytes of a text in UTF-8. -/
def Text.utf8Size (t : Text) : Nat := t.foldr (fun c size => c.utf8Size + size) 0

/-- A set of code points, as inclusive ranges. -/
abbrev CodeRanges := List (Nat × Nat)

def CodeRanges.contains (ranges : CodeRanges) (c : Char) : Bool :=
  ranges.any fun (first, last) => first ≤ c.toNat && c.toNat ≤ last

end LetterToSound
