/-!
# Faults of files

Why a file cannot be created, read or written, in the words of the system.
-/

namespace DeclGen

/-- Why a file cannot be opened or read. -/
inductive FileFault where
  | notFound
  | isDirectory
  | notDirectory
  | notText
  | nameTooLong
  /-- The path holds the character that ends paths for the system. -/
  | nullCharacter
  /-- Any other cause, in the system's own words. -/
  | other (message : String)
  deriving DecidableEq

namespace FileFault

/-- The text of a file fault. -/
def message : FileFault → String
  | .notFound => "No such file or directory (os error 2)"
  | .isDirectory => "Is a directory (os error 21)"
  | .notDirectory => "Not a directory (os error 20)"
  | .notText => "stream did not contain valid UTF-8"
  | .nameTooLong => "File name too long (os error 36)"
  | .nullCharacter => "file name contained an unexpected NUL byte"
  | .other message => message

end FileFault

end DeclGen
