/-!
What can go wrong with files and streams, and the text of each cause.
-/

namespace RequestLog

inductive IoError where
  | notFound
  | isDirectory
  | notDirectory
  | nameTooLong
  | nulInName
  | notUtf8
  | noSpace
  | invalidArgument
  | interrupted
  | writeZero
  | incompleteWrite
  | crashed
  | failed (text : String)
deriving DecidableEq, Repr

namespace IoError

def message : IoError → String
  | .notFound => "No such file or directory (os error 2)"
  | .isDirectory => "Is a directory (os error 21)"
  | .notDirectory => "Not a directory (os error 20)"
  | .nameTooLong => "File name too long (os error 36)"
  | .nulInName => "file name contained an unexpected NUL byte"
  | .notUtf8 => "stream did not contain valid UTF-8"
  | .noSpace => "No space left on device (os error 28)"
  | .invalidArgument => "Invalid argument (os error 22)"
  | .interrupted => "operation interrupted"
  | .writeZero => "write zero"
  | .incompleteWrite => "failed to write whole buffer"
  | .crashed => "panicked"
  | .failed text => text

end IoError

end RequestLog
