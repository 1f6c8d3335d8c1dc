/-!
# IoProblem — what the operating system refuses

The reasons for which reading, writing or starting a program can fail, with their texts.
-/

namespace CiPipeline

inductive IoProblem where
  | notFound
  | notExecutable
  | permissionDenied
  | fileExists
  | notDirectory
  | isDirectory
  | directoryNotEmpty
  | nameTooLong
  | tooManyLinks
  /-- The bytes of a file are no text. -/
  | notText
  /-- A program name or an argument holds a zero byte. -/
  | zeroByte
  /-- A file name holds a zero byte. -/
  | zeroByteInName
  | other (reason : String)
deriving DecidableEq, Repr, Inhabited

namespace IoProblem

def message : IoProblem → String
  | notFound => "No such file or directory (os error 2)"
  | notExecutable => "Exec format error (os error 8)"
  | permissionDenied => "Permission denied (os error 13)"
  | fileExists => "File exists (os error 17)"
  | notDirectory => "Not a directory (os error 20)"
  | isDirectory => "Is a directory (os error 21)"
  | nameTooLong => "File name too long (os error 36)"
  | directoryNotEmpty => "Directory not empty (os error 39)"
  | tooManyLinks => "Too many levels of symbolic links (os error 40)"
  | notText => "stream did not contain valid UTF-8"
  | zeroByte => "nul byte found in provided data"
  | zeroByteInName => "file name contained an unexpected NUL byte"
  | other reason => reason

end IoProblem
end CiPipeline
