/-!
Failures to read or write a file.
-/

namespace Dpll

inductive FileError where
  | notFound
  | isADirectory
  | notADirectory
  | nameTooLong
  /-- The bytes read are not the UTF-8 form of a text. -/
  | invalidText
  /-- There was no room for all of the bytes. -/
  | writeZero
  /-- Any other failure, in the words of the system. -/
  | system (description : String)
  deriving DecidableEq, Repr

def FileError.message : FileError → String
  | notFound => "No such file or directory (os error 2)"
  | isADirectory => "Is a directory (os error 21)"
  | notADirectory => "Not a directory (os error 20)"
  | nameTooLong => "File name too long (os error 36)"
  | invalidText => "stream did not contain valid UTF-8"
  | writeZero => "failed to write whole buffer"
  | system description => description

end Dpll
