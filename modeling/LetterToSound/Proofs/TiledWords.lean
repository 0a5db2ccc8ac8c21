import LetterToSound.Proofs.CombinationOrder

namespace LetterToSound

section

variable {segments : List (List Text)}

end

namespace RuleTrie

end RuleTrie

end LetterToSound
