/-!
# Faults

What can stand in the way of reading or writing a file, and what the operating system says
about it.
-/

namespace ScriptLexer.Files

/-- Why a file could not be read or written. -/
inductive Fault where
  /-- Nothing is there, or a directory on the way is missing. -/
  | notFound
  /-- A directory is there. -/
  | isDirectory
  /-- A file is there where a directory has to be. -/
  | notADirectory
  /-- A name, or the whole path, is too long. -/
  | nameTooLong
  /-- The path has U+0000 in it. -/
  | nulInPath
  /-- The content is no text in UTF-8. -/
  | notText
  /-- Anything else, in the words of the operating system. -/
  | other (description : String)
  deriving DecidableEq

/-- The words for a fault. -/
def Fault.message : Fault → String
  | notFound => "No such file or directory (os error 2)"
  | isDirectory => "Is a directory (os error 21)"
  | notADirectory => "Not a directory (os error 20)"
  | nameTooLong => "File name too long (os error 36)"
  | nulInPath => "file name contained an unexpected NUL byte"
  | notText => "stream did not contain valid UTF-8"
  | other description => description

end ScriptLexer.Files
