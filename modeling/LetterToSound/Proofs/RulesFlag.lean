import LetterToSound.CommandLine.Run

namespace LetterToSound

namespace Level

variable {level : Level} {options : Options} {setting : Setting} {t : Text}

end Level

namespace Request

end Request

end LetterToSound
